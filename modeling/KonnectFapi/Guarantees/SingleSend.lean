import KonnectFapi.Lib.Ledger
import KonnectFapi.Source.Deployment
import KonnectFapi.Source.Transport.CallAccounts
import KonnectFapi.Source.WorkerContexts

/-!
# Every credential operation is sent at most once

Source: kong/plugins/fapi-as-mtls-transport/handler.lua:1159-1454. Calls that
share a context are interleaved at their two yields; the context's ledger holds
exactly the keys of the operations sent, failed at the signer, or still there.
-/

namespace KonnectFapi.Guarantees
open Lib Lib.Lua Lib.Ledger Source.Transport Source.Worker

/-! ## What a run shows of one context -/

/-- The operation an invocation of the underlying `request_uri` carries, for the
`i`-th context of request `r`. -/
def sentOn (r i : Nat) : Event → Option Operation
  | .sent q (some j) pending => if q = r ∧ j = i then pending.operation else none
  | _ => none

/-- The operation that is over: sent, or failed at the signer. -/
def settledOn (r i : Nat) : Event → Option Operation
  | .sent q (some j) pending => if q = r ∧ j = i then pending.operation else none
  | .signerFailed q (some j) pending => if q = r ∧ j = i then pending.operation else none
  | _ => none

/-- The operation the signer is asked to complete. -/
def signedOn (r i : Nat) : Event → Option Operation
  | .signerCalled q (some j) pending => if q = r ∧ j = i then pending.operation else none
  | _ => none

/-- The operation a call waits at the signer with. -/
def waitingOn (i : Nat) : Call → Option Operation
  | ⟨some j, .awaitSigner pending⟩ => if j = i then pending.operation else none
  | _ => none

/-- References stay within the request's tables, and waiting calls hold their form. -/
structure References (q : Request) : Prop where
  shared : ∀ i, q.shared = some i → i < q.contexts.length
  calls : ∀ call ∈ q.calls, ∀ i, call.context = some i → i < q.contexts.length
  forms : ∀ call ∈ q.calls, ∀ pending, call.stage = .awaitSigner pending → WaitingForm pending

/-- The ledger of one context against what happened on it. -/
structure ContextAccounts (host : Host) (account : List Bytes × Option Bytes × Option Bytes)
    (settled waiting signed sent : List Operation) : Prop where
  accounts : Accounts (Operation.key host account.2.1 account.2.2) account.1 settled waiting
  signedOnce : signed.Nodup
  signedEntered : ∀ operation ∈ signed, ∃ key ∈ account.1,
    operation.key host account.2.1 account.2.2 = some key
  settledSent : ∀ operation ∈ settled, operation ∈ sent ∨ operation.IsToken
  waitingToken : ∀ operation ∈ waiting, operation.IsToken

/-- All contexts of request `r` after the events `past`. -/
structure RequestAccounts (host : Host) (r : Nat) (past : List Event) (q : Request) : Prop
    extends References q where
  known : ∀ i c, q.contexts[i]? = some c → ContextAccounts host c.account
    (past.filterMap (settledOn r i)) (q.calls.filterMap (waitingOn i))
    (past.filterMap (signedOn r i)) (past.filterMap (sentOn r i))
  unknown : ∀ i, q.contexts.length ≤ i →
    past.filterMap (settledOn r i) = [] ∧ past.filterMap (signedOn r i) = []

/-- Events that show nothing on any context of `r`. -/
def Silent (r : Nat) (emitted : List Event) : Prop :=
  ∀ i, emitted.filterMap (settledOn r i) = [] ∧ emitted.filterMap (signedOn r i) = [] ∧
    emitted.filterMap (sentOn r i) = []

/-! ## Steps that enter and settle nothing -/

theorem RequestAccounts.quiet {host : Host} {r : Nat} {past emitted : List Event} {q q' : Request}
    (h : RequestAccounts host r past q)
    (contexts : q'.contexts.map Context.account = q.contexts.map Context.account)
    (references : References q')
    (waiting : ∀ i, q'.calls.filterMap (waitingOn i) = q.calls.filterMap (waitingOn i))
    (silent : Silent r emitted) : RequestAccounts host r (past ++ emitted) q' where
  toReferences := references
  known := by
    intro i c' hc'
    have account := congrArg (fun accounts => accounts[i]?) contexts
    simp only [List.getElem?_map, hc', Option.map_some] at account
    obtain ⟨c, hc, same⟩ := Option.map_eq_some_iff.mp account.symm
    simp only [List.filterMap_append, (silent i).1, (silent i).2.1, (silent i).2.2, List.append_nil,
      waiting i, ← same]
    exact h.known i c hc
  unknown := by
    intro i hi
    have length : q'.contexts.length = q.contexts.length := by
      simpa using congrArg List.length contexts
    simp only [List.filterMap_append, (silent i).1, (silent i).2.1, List.append_nil]
    exact h.unknown i (length ▸ hi)

theorem References.write {q : Request} (h : References q) (reference : Option Nat)
    (after : Option Context) : References (q.writeContext reference after) where
  shared i hi := by
    rw [writeContext_length]
    exact h.shared i (by simpa using hi)
  calls call hcall i hi := by
    rw [writeContext_length]
    exact h.calls call (by simpa using hcall) i hi
  forms call hcall := h.forms call (by simpa using hcall)

/-- A further call, with a reference of the request's own. -/
theorem References.start {q : Request} (h : References q) (after : Option Context) (stage : Stage)
    (form : ∀ pending, stage = .awaitSigner pending → WaitingForm pending) :
    References { q.writeContext q.shared after with calls := q.calls ++ [⟨q.shared, stage⟩] } where
  shared := (h.write q.shared after).shared
  calls := by
    intro call hcall i hi
    show i < (q.writeContext q.shared after).contexts.length
    rw [writeContext_length]
    rcases List.mem_append.mp hcall with old | new
    · exact h.calls call old i hi
    · rw [List.mem_singleton.mp new] at hi
      exact h.shared i hi
  forms := by
    intro call hcall pending hstage
    rcases List.mem_append.mp hcall with old | new
    · exact h.forms call old pending hstage
    · rw [List.mem_singleton.mp new] at hstage
      exact form pending hstage

/-- A call that goes on to a stage where it no longer waits for the signer. -/
theorem References.advance {q : Request} (h : References q) {k : Nat} {reference : Option Nat}
    {was : Stage} (found : q.calls[k]? = some ⟨reference, was⟩) (after : Option Context)
    (stage : Stage) (resumed : ∀ pending, stage ≠ .awaitSigner pending) :
    References (q.advance k reference after stage) where
  shared := (h.write reference after).shared
  calls := by
    intro call hcall i hi
    show i < (q.writeContext reference after).contexts.length
    rw [writeContext_length]
    have hcall : call ∈ (q.writeContext reference after).calls.set k ⟨reference, stage⟩ := hcall
    rw [Request.writeContext_calls] at hcall
    rcases List.mem_or_eq_of_mem_set hcall with old | rfl
    · exact h.calls call old i hi
    · exact h.calls _ (List.mem_of_getElem? found) i hi
  forms := by
    intro call hcall pending hstage
    have hcall : call ∈ (q.writeContext reference after).calls.set k ⟨reference, stage⟩ := hcall
    rw [Request.writeContext_calls] at hcall
    rcases List.mem_or_eq_of_mem_set hcall with old | rfl
    · exact h.forms call old pending hstage
    · exact absurd hstage (resumed pending)

/-! ## The first stretch -/

theorem quiet_silent (r : Nat) (reference : Option Nat) {begun : Begun} (quiet : begun.Quiet) :
    Silent r [Begun.event r reference begun] ∧
      (∀ i, waitingOn i ⟨reference, Begun.stage begun⟩ = none) ∧
      ∀ pending, Begun.stage begun ≠ .awaitSigner pending := by
  cases begun with
  | sending pending =>
    have none : pending.operation = none := quiet
    refine ⟨fun i => ?_, fun i => ?_, by rintro _ ⟨⟩⟩
    · cases reference <;> simp [Begun.event, settledOn, signedOn, sentOn, none]
    · cases reference <;> rfl
  | signerFailed | awaitSigner => cases quiet
  | rejected | passthrough | raised =>
    refine ⟨fun i => ⟨rfl, rfl, rfl⟩, fun i => ?_, by rintro _ ⟨⟩⟩
    cases reference <;> rfl

/-- An operation shows on its own context only. -/
theorem carries_elsewhere {r i j : Nat} (h : j ≠ i) {operation : Operation} {begun : Begun}
    (carries : begun.Carries operation) :
    settledOn r j (Begun.event r (some i) begun) = none ∧
      signedOn r j (Begun.event r (some i) begun) = none ∧
      sentOn r j (Begun.event r (some i) begun) = none ∧
      waitingOn j ⟨some i, Begun.stage begun⟩ = none := by
  have other : ¬ i = j := fun same => h same.symm
  cases carries <;> simp [Begun.event, Begun.stage, settledOn, signedOn, sentOn, waitingOn, other]

/-- Entering an operation keeps the accounts of the context it is entered in. -/
theorem ContextAccounts.enter {host : Host} {account : List Bytes × Option Bytes × Option Bytes}
    {settled waiting signed sent : List Operation}
    (h : ContextAccounts host account settled waiting signed sent) {operation : Operation}
    {key : Bytes} (isKey : operation.key host account.2.1 account.2.2 = some key)
    (fresh : key ∉ account.1) (r i : Nat) {begun : Begun} (carries : begun.Carries operation) :
    ContextAccounts host (key :: account.1, account.2)
      (settled ++ (settledOn r i (Begun.event r (some i) begun)).toList)
      (waiting ++ (waitingOn i ⟨some i, Begun.stage begun⟩).toList)
      (signed ++ (signedOn r i (Begun.event r (some i) begun)).toList)
      (sent ++ (sentOn r i (Begun.event r (some i) begun)).toList) := by
  have kept : ∀ other ∈ signed, ∃ k ∈ key :: account.1,
      other.key host account.2.1 account.2.2 = some k := by
    intro other hother
    obtain ⟨k, hk, same⟩ := h.signedEntered other hother
    exact ⟨k, List.mem_cons_of_mem key hk, same⟩
  cases carries with
  | sending pending is =>
    simp only [Begun.event, Begun.stage, settledOn, waitingOn, signedOn, sentOn, and_self, if_true,
      is, Option.toList_some, Option.toList_none, List.append_nil]
    refine ⟨h.accounts.settle isKey fresh, h.signedOnce, kept, ?_, h.waitingToken⟩
    intro other hother
    rcases List.mem_append.mp hother with old | added
    · exact (h.settledSent other old).imp_left (List.mem_append_left _)
    · exact Or.inl (List.mem_append_right _ added)
  | signerFailed pending is token =>
    simp only [Begun.event, Begun.stage, settledOn, waitingOn, signedOn, sentOn, and_self, if_true,
      is, Option.toList_some, Option.toList_none, List.append_nil]
    refine ⟨h.accounts.settle isKey fresh, h.signedOnce, kept, ?_, h.waitingToken⟩
    intro other hother
    rcases List.mem_append.mp hother with old | added
    · exact h.settledSent other old
    · exact Or.inr (List.mem_singleton.mp added ▸ token)
  | awaitSigner pending is token =>
    simp only [Begun.event, Begun.stage, settledOn, waitingOn, signedOn, sentOn, and_self, if_true,
      is, Option.toList_some, Option.toList_none, List.append_nil]
    refine ⟨h.accounts.wait isKey fresh, ?_, ?_, h.settledSent, ?_⟩
    · -- the signer has not been asked for it: its key would be entered
      have new : operation ∉ signed := by
        intro asked
        obtain ⟨k, hk, same⟩ := h.signedEntered operation asked
        exact fresh (Option.some.inj (isKey.symm.trans same) ▸ hk)
      rw [List.nodup_append]
      refine ⟨h.signedOnce, List.nodup_singleton _, ?_⟩
      intro a ha b hb same
      rw [List.mem_singleton] at hb
      exact new (hb ▸ same ▸ ha)
    · intro other hother
      rcases List.mem_append.mp hother with old | added
      · exact kept other old
      · rw [List.mem_singleton.mp added]
        exact ⟨key, List.mem_cons_self, isKey⟩
    · intro other hother
      rcases List.mem_append.mp hother with old | added
      · exact h.waitingToken other old
      · exact List.mem_singleton.mp added ▸ token

theorem RequestAccounts.begin {host : Host} {r : Nat} {past : List Event} {q : Request}
    (h : RequestAccounts host r past q) (s : State) (env : CallEnv) (client uri options : Value) :
    RequestAccounts host r
      (past ++ [Begun.event r q.shared (q.begin host s env client uri options).2])
      (q.begin host s env client uri options).1 := by
  have ledger := beginCall_ledger host s env (q.context? q.shared) client uri options
  unfold Request.begin
  generalize beginCall host s env (q.context? q.shared) client uri options = result at ledger
  cases ledger with
  | quiet after begun same quiet =>
    obtain ⟨silent, waiting, stage⟩ := quiet_silent r q.shared quiet
    have references := h.toReferences.start after (Begun.stage begun)
      (fun pending hstage => absurd hstage (stage pending))
    simp only [Request.writeContext_shared] at references
    simp only [Request.writeContext_calls, Request.writeContext_shared]
    refine h.quiet (writeContext_map Context.account q q.shared after same) references (fun i => ?_) silent
    simp only [filterMap_append_one, waiting i, Option.toList_none, List.append_nil]
  | entered c after begun operation key found isKey fresh account carries =>
    obtain ⟨i, hshared, hc⟩ := context?_eq_some found
    obtain ⟨c', rfl, written⟩ := Option.map_eq_some_iff.mp account
    have form : ∀ pending, Begun.stage begun = .awaitSigner pending → WaitingForm pending := by
      intro pending hstage
      cases carries with
      | sending | signerFailed => cases hstage
      | awaitSigner pending' is token form =>
        cases hstage
        exact form
    have references := h.toReferences.start (some c') (Begun.stage begun) form
    simp only [Request.writeContext_shared] at references
    simp only [Request.writeContext_calls, Request.writeContext_shared]
    refine ⟨references, ?_, ?_⟩
    · intro j d hd
      simp only [filterMap_append_one]
      have hd : (q.writeContext q.shared (some c')).contexts[j]? = some d := hd
      rw [hshared] at hd ⊢
      have hd : (q.contexts.set i c')[j]? = some d := hd
      by_cases same : j = i
      · subst same
        rw [List.getElem?_set_self (List.getElem?_eq_some_iff.mp hc).1] at hd
        cases hd
        rw [written]
        exact (h.known j c hc).enter isKey fresh r j carries
      · rw [List.getElem?_set_ne (Ne.symm same)] at hd
        obtain ⟨settled, signed, sent, waiting⟩ := carries_elsewhere (r := r) same carries
        rw [settled, signed, sent, waiting]
        simpa using h.known j d hd
    · intro j hj
      have hj : (q.writeContext q.shared (some c')).contexts.length ≤ j := hj
      rw [writeContext_length] at hj
      have different : j ≠ i := by
        have := (List.getElem?_eq_some_iff.mp hc).1
        omega
      obtain ⟨settled, signed, -, -⟩ := carries_elsewhere (r := r) different carries
      simp only [filterMap_append_one]
      rw [hshared, settled, signed]
      simpa using h.unknown j hj

/-! ## The later stretches -/

theorem RequestAccounts.signer {host : Host} {r : Nat} {past : List Event} {q : Request}
    (h : RequestAccounts host r past q) (now : Nat) (result : SignerResult) {k : Nat}
    {reference : Option Nat} {pending : Pending}
    (found : q.calls[k]? = some ⟨reference, .awaitSigner pending⟩) :
    let ended := afterSigner host now (q.context? reference) pending result
    RequestAccounts host r (past ++ [Begun.event r reference ended.2])
      (q.advance k reference ended.1 (Begun.stage ended.2)) := by
  intro ended
  have form := h.forms _ (List.mem_of_getElem? found) pending rfl
  have same : ended.1.map Context.account = (q.context? reference).map Context.account :=
    (afterSigner_effect host now (q.context? reference) pending result).1.account
  -- the call either failed at the signer or goes on with the same operation
  obtain ⟨resumed, shown⟩ : (∀ p, Begun.stage ended.2 ≠ .awaitSigner p) ∧
      ∀ i, signedOn r i (Begun.event r reference ended.2) = none ∧
        waitingOn i ⟨reference, Begun.stage ended.2⟩ = none ∧
        settledOn r i (Begun.event r reference ended.2) =
          waitingOn i ⟨reference, .awaitSigner pending⟩ := by
    rcases afterSigner_carries host now (q.context? reference) result form with
      failed | ⟨next, sent, operation⟩
    · have : ended.2 = .signerFailed pending := failed
      rw [this]
      refine ⟨by rintro _ ⟨⟩, fun i => ?_⟩
      cases reference <;> simp [Begun.event, Begun.stage, signedOn, waitingOn, settledOn]
    · have : ended.2 = .sending next := sent
      rw [this]
      refine ⟨by rintro _ ⟨⟩, fun i => ?_⟩
      cases reference <;> simp [Begun.event, Begun.stage, signedOn, waitingOn, settledOn, operation]
  have references := h.toReferences.advance found ended.1 (Begun.stage ended.2) resumed
  have contexts : (q.advance k reference ended.1 (Begun.stage ended.2)).contexts.map Context.account =
      q.contexts.map Context.account := writeContext_map Context.account q reference ended.1 same
  have calls : (q.advance k reference ended.1 (Begun.stage ended.2)).calls =
      q.calls.set k ⟨reference, Begun.stage ended.2⟩ := by
    show (q.writeContext reference ended.1).calls.set k _ = _
    rw [Request.writeContext_calls]
  refine ⟨references, ?_, ?_⟩
  · intro i c' hc'
    have account := congrArg (fun accounts => accounts[i]?) contexts
    simp only [List.getElem?_map, hc', Option.map_some] at account
    obtain ⟨c, hc, sameAccount⟩ := Option.map_eq_some_iff.mp account.symm
    have before := h.known i c hc
    obtain ⟨signed, hidden, settled⟩ := shown i
    simp only [filterMap_append_one, signed, settled, calls, Option.toList_none, List.append_nil]
    rw [← sameAccount]
    cases hwaiting : waitingOn i ⟨reference, .awaitSigner pending⟩ with
    | none =>
      rw [filterMap_set_of_eq found (hidden.trans hwaiting.symm)]
      simp only [Option.toList_none, List.append_nil]
      exact ⟨before.accounts, before.signedOnce, before.signedEntered,
        fun operation h => (before.settledSent operation h).imp_left (List.mem_append_left _),
        before.waitingToken⟩
    | some operation =>
      have was := filterMap_set_perm found hwaiting hidden
      refine ⟨before.accounts.settle_waiting was, before.signedOnce, before.signedEntered, ?_, ?_⟩
      · intro other hother
        rcases List.mem_append.mp hother with old | added
        · exact (before.settledSent other old).imp_left (List.mem_append_left _)
        · rw [List.mem_singleton.mp added]
          exact Or.inr (before.waitingToken operation (was.mem_iff.mpr List.mem_cons_self))
      · exact fun other hother =>
          before.waitingToken other (was.mem_iff.mpr (List.mem_cons_of_mem _ hother))
  · intro i hi
    have length : (q.advance k reference ended.1 (Begun.stage ended.2)).contexts.length =
        q.contexts.length := by simpa using congrArg List.length contexts
    have outside := h.unknown i (length ▸ hi)
    obtain ⟨signed, hidden, settled⟩ := shown i
    have elsewhere : waitingOn i ⟨reference, .awaitSigner pending⟩ = none := by
      cases reference with
      | none => rfl
      | some j =>
        have bound := h.calls _ (List.mem_of_getElem? found) j rfl
        have : j ≠ i := by omega
        simp [waitingOn, this]
    simp only [filterMap_append_one, signed, settled, elsewhere, Option.toList_none, List.append_nil]
    exact outside

theorem RequestAccounts.network {host : Host} {r : Nat} {past : List Event} {q : Request}
    (h : RequestAccounts host r past q) (result : NetworkResult) {k : Nat}
    {reference : Option Nat} {pending : Pending}
    (found : q.calls[k]? = some ⟨reference, .awaitNetwork pending⟩) :
    let ended := afterNetwork (q.context? reference) pending result
    RequestAccounts host r (past ++ [.answered r reference ended.2])
      (q.advance k reference ended.1 .finished) := by
  intro ended
  have same : ended.1.map Context.account = (q.context? reference).map Context.account :=
    (afterNetwork_effect (q.context? reference) pending result).account
  have references := h.toReferences.advance found ended.1 .finished (by rintro _ ⟨⟩)
  refine h.quiet (writeContext_map Context.account q reference ended.1 same) references (fun i => ?_)
    (fun i => ⟨rfl, rfl, rfl⟩)
  show ((q.writeContext reference ended.1).calls.set k _).filterMap _ = _
  rw [Request.writeContext_calls]
  exact filterMap_set_of_eq found (by cases reference <;> rfl)

/-- A fresh context has an empty ledger and no history. -/
theorem RequestAccounts.access {host : Host} {r : Nat} {past : List Event} {q : Request}
    (h : RequestAccounts host r past q) (env : Env) (s : State) (sharedTable : Bool)
    (routeId : Option Bytes) :
    RequestAccounts host r past (q.accessed (Source.Transport.access host env s sharedTable routeId)) := by
  have empty : ∀ c ∈ (Source.Transport.access host env s sharedTable routeId).shared, c.sentOperations = [] := by
    intro c hc
    unfold Source.Transport.access at hc
    dsimp only at hc
    split at hc
    · cases hc
    · split at hc
      · cases hc
      · split at hc
        · cases hc
        · split at hc
          · cases hc
          · cases hc
            rfl
  unfold Request.accessed
  cases hshared : (Source.Transport.access host env s sharedTable routeId).shared with
  | none =>
    exact ⟨⟨by rintro _ ⟨⟩, h.calls, h.forms⟩, h.known, h.unknown⟩
  | some c =>
    have fresh := empty c hshared
    refine ⟨⟨?_, ?_, h.forms⟩, ?_, ?_⟩
    · rintro _ ⟨⟩
      simp
    · intro call hcall i hi
      have := h.calls call hcall i hi
      simp only [List.length_append, List.length_singleton]
      omega
    · intro i d hd
      by_cases hi : i < q.contexts.length
      · rw [List.getElem?_append_left hi] at hd
        exact h.known i d hd
      · have hlast : i = q.contexts.length := by
          have := (List.getElem?_eq_some_iff.mp hd).1
          simp only [List.length_append, List.length_singleton] at this
          omega
        subst hlast
        rw [List.getElem?_append_right (Nat.le_refl _), Nat.sub_self] at hd
        cases hd
        obtain ⟨settled, signed⟩ := h.unknown _ (Nat.le_refl _)
        have waiting : q.calls.filterMap (waitingOn q.contexts.length) = [] := by
          rw [List.filterMap_eq_nil_iff]
          intro call hcall
          unfold waitingOn
          split
          · rename_i j pending
            have bound := h.calls _ hcall j rfl
            exact if_neg (by omega)
          · rfl
        simp only [settled, signed, waiting, Context.account, fresh]
        exact ⟨Accounts.empty, List.nodup_nil, by simp, by simp, by simp⟩
    · intro i hi
      simp only [List.length_append, List.length_singleton] at hi
      exact h.unknown i (by omega)

/-! ## Every step, every run -/

theorem silent_of_file (r : Nat) (effects : List FileEffect) :
    Silent r (effects.map Event.file) := by
  intro i
  refine ⟨?_, ?_, ?_⟩ <;>
    (rw [List.filterMap_map, List.filterMap_eq_nil_iff]; intro effect _; rfl)

theorem Silent.append {r : Nat} {first second : List Event} (h : Silent r first)
    (h' : Silent r second) : Silent r (first ++ second) := by
  intro i
  simp only [List.filterMap_append, (h i).1, (h i).2, (h' i).1, (h' i).2, List.append_nil,
    and_self]

/-- Events of another request show nothing on this one's contexts. -/
theorem silent_of_ne {r q : Nat} (h : r ≠ q) (reference : Option Nat) (begun : Begun) :
    Silent r [Begun.event q reference begun] := by
  intro i
  have other : ¬ q = r := fun same => h same.symm
  cases begun <;> cases reference <;> simp [Begun.event, settledOn, signedOn, sentOn, other]

/-- Nothing happened to the request. -/
theorem RequestAccounts.idle {host : Host} {r : Nat} {past emitted : List Event} {q : Request}
    (h : RequestAccounts host r past q) (silent : Silent r emitted) :
    RequestAccounts host r (past ++ emitted) q :=
  h.quiet rfl h.toReferences (fun _ => rfl) silent

section
variable (host : Host) (process : Process)

/-- What a bridge's access step reports tells nothing of a call. -/
theorem access_silent (r q : Nat) (effects : List FileEffect) (ending : Source.Bridge.AccessEnd)
    (assertion : Option Bytes) :
    Silent r (effects.map Event.file ++
      (match ending with
        | .continue => []
        | .exit status => [.exited q status]) ++
      (match assertion with
        | some text => [.assertion q text]
        | none => [])) := by
  refine ((silent_of_file r _).append ?_).append ?_
  · cases ending <;> exact fun i => ⟨rfl, rfl, rfl⟩
  · cases assertion <;> exact fun i => ⟨rfl, rfl, rfl⟩

theorem accounts_step (w : World) (i : Step) (past : List Event)
    (h : ∀ r, RequestAccounts host r past (w.requests r)) :
    ∀ r, RequestAccounts host r (past ++ (step host process w i).2)
      ((step host process w i).1.requests r) := by
  intro r
  cases i with
  | configure | initWorker | markBridgeLoaded | markBridgeStatus | bridgeConfigure |
    bridgeInitWorker | refreshTransportStatus => exact (h r).idle (silent_of_file r _)
  | bridgeAccess q env accessEnv conf =>
    show RequestAccounts host r (past ++ (bridgeAccessStep host process w q env accessEnv conf).2)
      ((bridgeAccessStep host process w q env accessEnv conf).1.requests r)
    unfold bridgeAccessStep
    dsimp only
    have account := Source.Bridge.access_account host process env accessEnv conf
      ((w.requests q).context? (w.requests q).shared) w.modules
    generalize Source.Bridge.access host process env accessEnv conf
      ((w.requests q).context? (w.requests q).shared) w.modules = outcome at account
    have silent := access_silent r q outcome.effects outcome.ending outcome.assertion
    by_cases same : r = q
    · subst same
      simp only [World.setRequest_self]
      refine (h r).quiet (writeContext_map Context.account _ _ _ account) ((h r).toReferences.write _ _)
        (fun i => ?_) silent
      rw [Request.writeContext_calls]
    · simp only [World.setRequest_of_ne _ _ same]
      exact (h r).idle silent
  | access q env sharedTable routeId =>
    show RequestAccounts host r (past ++ (accessStep host w q env sharedTable routeId).2)
      ((accessStep host w q env sharedTable routeId).1.requests r)
    unfold accessStep
    have silent : Silent r (if (Source.Transport.access host env w.modules.transport sharedTable
        routeId).exit503 then [Event.exited q 503] else []) := by
      split <;> exact fun i => ⟨rfl, rfl, rfl⟩
    by_cases same : r = q
    · subst same
      simp only [World.setRequest_self]
      exact ((h r).access env w.modules.transport sharedTable routeId).idle silent
    · simp only [World.setRequest_of_ne _ _ same]
      exact (h r).idle silent
  | begin q env client uri options =>
    show RequestAccounts host r (past ++ (beginStep host w q env client uri options).2)
      ((beginStep host w q env client uri options).1.requests r)
    unfold beginStep
    split
    · by_cases same : r = q
      · subst same
        simp only [World.setRequest_self]
        exact (h r).begin w.modules.transport env client uri options
      · simp only [World.setRequest_of_ne _ _ same]
        exact (h r).idle (silent_of_ne same _ _)
    · exact (h r).idle fun i => ⟨rfl, rfl, rfl⟩
  | signerReturns q call now result =>
    show RequestAccounts host r (past ++ (signerStep host w q call now result).2)
      ((signerStep host w q call now result).1.requests r)
    unfold signerStep
    split
    · rename_i reference pending found
      by_cases same : r = q
      · subst same
        simp only [World.setRequest_self]
        exact (h r).signer now result found
      · simp only [World.setRequest_of_ne _ _ same]
        exact (h r).idle (silent_of_ne same _ _)
    · exact (h r).idle fun i => ⟨rfl, rfl, rfl⟩
  | networkReturns q call result =>
    show RequestAccounts host r (past ++ (networkStep w q call result).2)
      ((networkStep w q call result).1.requests r)
    unfold networkStep
    split
    · rename_i reference pending found
      by_cases same : r = q
      · subst same
        simp only [World.setRequest_self]
        exact (h r).network result found
      · simp only [World.setRequest_of_ne _ _ same]
        exact (h r).idle fun i => ⟨rfl, rfl, rfl⟩
    · exact (h r).idle fun i => ⟨rfl, rfl, rfl⟩
  | callback q i accessEnv =>
    show RequestAccounts host r (past ++ (callbackStep host w q i accessEnv).2)
      ((callbackStep host w q i accessEnv).1.requests r)
    unfold callbackStep
    split
    · split
      · rename_i context _ _ stored _
        generalize Source.Bridge.signCallback host accessEnv context stored w.modules = result
        obtain ⟨bridge, text⟩ := result
        cases text <;> exact (h r).idle fun i => ⟨rfl, rfl, rfl⟩
      · exact (h r).idle fun i => ⟨rfl, rfl, rfl⟩
    · exact (h r).idle fun i => ⟨rfl, rfl, rfl⟩

/-- In every run, every context's ledger accounts for what happened on it. -/
theorem accounts_run (inputs : List Step) (r : Nat) :
    RequestAccounts host r (run host process World.initial inputs).2
      ((run host process World.initial inputs).1.requests r) := by
  have initially : ∀ r, RequestAccounts host r [] (World.initial.requests r) := fun r =>
    ⟨⟨by rintro _ ⟨⟩, fun _ h => absurd h List.not_mem_nil, fun _ h => absurd h List.not_mem_nil⟩,
      fun i c hc => by simp [World.initial] at hc, fun _ _ => ⟨rfl, rfl⟩⟩
  have always := Machine.run_history
    (P := fun v past => ∀ r, RequestAccounts host r past (v.requests r))
    (fun v i past h => accounts_step host process v i past h) World.initial inputs [] initially
  simpa using always r

end

/-! ## The signer is asked for guarded forms only -/

theorem signerCalled_guarded (host : Host) (process : Process) (w : World) (i : Step) (r : Nat)
    (reference : Option Nat) (pending : Pending)
    (h : .signerCalled r reference pending ∈ (step host process w i).2) :
    ∃ env client uri options c identity post, i = .begin r env client uri options ∧
      (w.requests r).context? (w.requests r).shared = some c ∧ reference = (w.requests r).shared ∧
      Admitted host w.modules.transport env (some c) client uri options.fields (.route identity)
        pending ∧
      PostAdmitted host env c identity pending post := by
  cases i with
  | configure | initWorker | markBridgeLoaded | markBridgeStatus | bridgeConfigure |
    bridgeInitWorker | refreshTransportStatus =>
    obtain ⟨effect, -, same⟩ := List.mem_map.mp h
    cases same
  | bridgeAccess q env accessEnv conf =>
    change _ ∈ (bridgeAccessStep host process w q env accessEnv conf).2 at h
    unfold bridgeAccessStep at h
    simp only [List.mem_append, List.mem_map] at h
    rcases h with (⟨effect, -, same⟩ | h) | h
    · cases same
    · split at h <;> simp at h
    · split at h <;> simp at h
  | access q env sharedTable routeId =>
    change _ ∈ (accessStep host w q env sharedTable routeId).2 at h
    unfold accessStep at h
    dsimp only at h
    split at h <;> simp at h
  | begin q env client uri options =>
    change _ ∈ (beginStep host w q env client uri options).2 at h
    unfold beginStep at h
    split at h
    · simp only [Request.begin, List.mem_singleton] at h
      have effect := beginCall_effect host w.modules.transport env
        ((w.requests q).context? (w.requests q).shared) client uri options
      generalize beginCall host w.modules.transport env
        ((w.requests q).context? (w.requests q).shared) client uri options = result at h effect
      cases effect with
      | passthrough | rejected | raised | metadata => cases h
      | post identity waiting c post after begun found admitted posted carries clientId same
          launched =>
        cases launched with
        | sending | signerFailed | raised => cases h
        | awaitSigner slot =>
          cases h
          rw [found] at admitted
          exact ⟨env, client, uri, options, c, identity, post, rfl, found, rfl,
            ⟨admitted.admitted, admitted.prepared⟩, ⟨posted.form, posted.prepared, posted.fresh⟩⟩
    · cases h
  | signerReturns q call now result =>
    change _ ∈ (signerStep host w q call now result).2 at h
    unfold signerStep at h
    split at h
    · rename_i reference waiting found
      simp only [List.mem_singleton] at h
      have effect := (afterSigner_effect host now ((w.requests q).context? reference) waiting
        result).2
      generalize (afterSigner host now ((w.requests q).context? reference) waiting result).2 = begun
        at h effect
      cases effect <;> cases h
    · cases h
  | networkReturns q call result =>
    change _ ∈ (networkStep w q call result).2 at h
    unfold networkStep at h
    split at h <;> simp at h
  | callback q i accessEnv =>
    change _ ∈ (callbackStep host w q i accessEnv).2 at h
    unfold callbackStep at h
    split at h
    · split at h
      · dsimp only at h
        split at h <;> simp at h
      · cases h
    · cases h

/-! ## A revocation is refused for its own token only -/

/-- Every guard but the ledger lets the revocation through. -/
structure RevocationPasses (host : Host) (s : State) (env : CallEnv) (c : Context)
    (client uri options : Value) (post : Prepared) : Prop where
  passes : ∃ endpoint method identity registry params id,
    admitCall host s env (some c) uri options.fields = .admitted endpoint method (.route identity) ∧
    endpoint.kind = .revocation ∧ s.registry = some registry ∧
    setMtlsOptions host s registry env client (copiedOptions options.fields) identity.toIdentity
      identity.logicalRoute = .prepared params id ∧
    contentTypeIsForm (paramHeaders (withoutLocator params)) = true ∧
    preparePost host env.now c identity .revocation (withoutLocator params)
      (paramHeaders (withoutLocator params)) = some post

theorem revocation_sent {host : Host} {s : State} {env : CallEnv} {c : Context}
    {client uri options : Value} {post : Prepared}
    (h : RevocationPasses host s env c client uri options post)
    (fresh : post.replayKey ∉ c.sentOperations) :
    ∃ pending, (beginCall host s env (some c) client uri options).2 = .sending pending := by
  obtain ⟨endpoint, method, identity, registry, params, id, admission, kind, hregistry, hparams,
    form, hpost⟩ := h.passes
  have identified := (setMtlsOptions_prepared hparams).identified
  obtain ⟨context, pending, result, isRevocation⟩ : ∃ context pending,
      (beginCall host s env (some c) client uri options).2 =
        (launch s registry context (.route identity) id pending).2 ∧
      pending.endpoint.kind = .revocation := by
    let pending : Pending :=
      { endpoint, params := withoutLocator params, prepared := some post,
        clientId := identity.clientId, slot := none,
        observation := postObservation
          (requestObservation (some c) endpoint method (.route identity) id) .revocation post }
    refine ⟨some (markSent c post), pending, ?_, kind⟩
    have unseen : c.sentOperations.contains post.replayKey = false := by simpa using fresh
    unfold beginCall beginAdmitted
    unfold withoutLocator paramHeaders at form
    unfold withoutLocator paramHeaders at hpost
    simp only [admission, hregistry, Selected.identity, Selected.routeName, hparams, form, kind,
      hpost, unseen, Bool.not_true, Bool.false_eq_true, if_false]
    rfl
  have launched := (launch_effect s registry context (.route identity) id pending identified).2
  rw [result]
  generalize (launch s registry context (.route identity) id pending).2 = begun at launched
  cases launched with
  | sending slot => exact ⟨_, rfl⟩
  | awaitSigner slot c' same signed => exact absurd (isRevocation.symm.trans signed.1) (by decide)
  | signerFailed slot signed => exact absurd (isRevocation.symm.trans signed.1) (by decide)
  | raised absent signed => exact absurd (isRevocation.symm.trans signed.1) (by decide)

/-- What is sent is settled, in the same order. -/
theorem sent_sublist (r i : Nat) (events : List Event) :
    (events.filterMap (sentOn r i)).Sublist (events.filterMap (settledOn r i)) := by
  induction events with
  | nil => exact List.Sublist.refl _
  | cons event rest ih =>
    cases hsent : sentOn r i event with
    | none =>
      rw [List.filterMap_cons_none hsent]
      cases hsettled : settledOn r i event with
      | none => rwa [List.filterMap_cons_none hsettled]
      | some operation =>
        rw [List.filterMap_cons_some hsettled]
        exact ih.cons operation
    | some operation =>
      have hsettled : settledOn r i event = some operation := by
        unfold sentOn at hsent
        split at hsent
        · exact hsent
        · cases hsent
      rw [List.filterMap_cons_some hsent, List.filterMap_cons_some hsettled]
      exact ih.cons_cons operation

/-- What every run shows of the `i`-th context of request `r`. -/
structure SendsOnce (host : Host) (process : Process) (inputs : List Step) (r i : Nat) : Prop where
  /-- No operation is sent twice. -/
  sent : ((run host process World.initial inputs).2.filterMap (sentOn r i)).Nodup
  /-- Neither is one that has failed at the signer or on the network. -/
  settled : ((run host process World.initial inputs).2.filterMap (settledOn r i)).Nodup
  /-- The signer is asked for no operation twice, -/
  signed : ((run host process World.initial inputs).2.filterMap (signedOn r i)).Nodup
  /-- and only for forms every guard has passed. -/
  guarded : let w := (run host process World.initial inputs).1
    ∀ step' pending, .signerCalled r (some i) pending ∈ (step host process w step').2 →
      ∃ env client uri options c identity post, step' = .begin r env client uri options ∧
        (w.requests r).contexts[i]? = some c ∧
        Admitted host w.modules.transport env (some c) client uri options.fields
          (.route identity) pending ∧
        PostAdmitted host env c identity pending post
  /-- A revocation is refused by the ledger only if its own token was revoked before. -/
  revocations : let w := (run host process World.initial inputs).1
    ∀ env c client uri options post, (w.requests r).contexts[i]? = some c →
      RevocationPasses host w.modules.transport env c client uri options post →
      .revocation ((post.fields.field "token").getD []) ∉
          (run host process World.initial inputs).2.filterMap (sentOn r i) →
        ∃ pending, (beginCall host w.modules.transport env (some c) client uri options).2 =
          .sending pending

/-- Over every run, whatever the order of its steps and wherever its calls fail, each
credential operation is sent at most once. -/
theorem single_send (host : Host) (process : Process) (free : CollisionFree host)
    (inputs : List Step) (r i : Nat) : SendsOnce host process inputs r i := by
  let w := (run host process World.initial inputs).1
  let events := (run host process World.initial inputs).2
  have accounts : RequestAccounts host r events (w.requests r) := accounts_run host process inputs r
  obtain ⟨settledOnce, signedOnce⟩ : (events.filterMap (settledOn r i)).Nodup ∧
      (events.filterMap (signedOn r i)).Nodup := by
    by_cases hi : i < (w.requests r).contexts.length
    · have known := accounts.known i _ (List.getElem?_eq_getElem hi)
      exact ⟨(List.nodup_append.mp known.accounts.nodup).1, known.signedOnce⟩
    · obtain ⟨settled, signed⟩ := accounts.unknown i (Nat.le_of_not_lt hi)
      rw [settled, signed]
      exact ⟨List.nodup_nil, List.nodup_nil⟩
  refine ⟨settledOnce.sublist (sent_sublist r i events), settledOnce, signedOnce, ?_, ?_⟩
  · intro w step' pending h
    obtain ⟨env, client, uri, options, c, identity, post, isBegin, found, reference, admitted, posted⟩ :=
      signerCalled_guarded host process w step' r (some i) pending h
    obtain ⟨j, hshared, hc⟩ := context?_eq_some found
    cases reference.trans hshared
    exact ⟨env, client, uri, options, c, identity, post, isBegin, hc, admitted, posted⟩
  · intro w env c client uri options post hc passes unsent
    have known := accounts.known i c hc
    refine revocation_sent passes fun entered => ?_
    obtain ⟨endpoint, method, identity, registry, params, id, admission, kind, -, -, -, hpost⟩ :=
      passes.passes
    have checked := preparePost_prepared hpost
    have classified := (admitCall_admitted admission).classified
    obtain ⟨operation, isOperation, isKey⟩ :=
      post_key classified (admitCall_admitted admission).identity.1 (kind ▸ checked)
    have url := (classify_spec classified).2.2.2.2.2.2.mpr kind
    rw [operationOf, url, if_neg (by decide), if_neg (by decide), if_pos rfl] at isOperation
    cases isOperation
    have accounted := known.accounts.mem_of_entered entered fun other hother =>
      Operation.key_injective free hother isKey
    rcases List.mem_append.mp accounted with settled | waiting
    · rcases known.settledSent _ settled with sent | ⟨grant, token⟩
      · exact unsent sent
      · cases token
    · obtain ⟨grant, token⟩ := known.waitingToken _ waiting
      cases token

open Source.Deployment in
/-- Route A posts its PAR form twice and revokes one token in two spellings. -/
def routeAPosts : List Step :=
  started ++ [.access 0 env true (some routeA.routeId),
    .begin 0 callEnv .nil (.str par) (formPost "client_id=third-party-fapi-mtls"),
    .begin 0 callEnv .nil (.str par) (formPost "client_id=third-party-fapi-mtls"),
    .begin 0 callEnv .nil (.str revocation) (formPost "client_id=third-party-fapi-mtls&token=opaque"),
    .networkReturns 0 0 .failed,
    .begin 0 callEnv .nil (.str revocation)
      (formPost "token=%6fpaque&client_id=third-party-fapi-mtls")]

theorem single_send_route_a :
    SendsOnce Source.Deployment.libraries Source.Deployment.offline routeAPosts 0 0 :=
  single_send Source.Deployment.libraries Source.Deployment.offline
    Source.Deployment.libraries_collisionFree routeAPosts 0 0

end KonnectFapi.Guarantees

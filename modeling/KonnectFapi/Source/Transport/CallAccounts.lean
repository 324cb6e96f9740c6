import KonnectFapi.Source.Transport.OperationKey

/-!
# What one call does to the ledger

Source: kong/plugins/fapi-as-mtls-transport/handler.lua:1385-1437. A call enters
at most one operation, before it can yield, and goes on with that operation.
-/

namespace KonnectFapi.Source.Transport
open Lib Lib.Lua

/-- A call waiting for the signer holds the form the operation is read off. -/
def WaitingForm (pending : Pending) : Prop :=
  ∃ post, pending.prepared = some post ∧ pending.params.get (.name "body") = .str post.body ∧
    decodedForm post.body = some post.fields

/-- A stretch that ends without an operation on the network or at the signer. -/
def Begun.Quiet : Begun → Prop
  | .sending pending => pending.operation = none
  | .signerFailed _ | .awaitSigner _ => False
  | _ => True

/-- The signer is asked for token requests only. -/
def Operation.IsToken (operation : Operation) : Prop := ∃ grantType, operation = .token grantType

/-- A stretch that goes on with an operation. -/
inductive Begun.Carries (operation : Operation) : Begun → Prop where
  | sending (pending : Pending) (is : pending.operation = some operation) :
      Begun.Carries operation (.sending pending)
  | signerFailed (pending : Pending) (is : pending.operation = some operation)
      (token : operation.IsToken) : Begun.Carries operation (.signerFailed pending)
  | awaitSigner (pending : Pending) (is : pending.operation = some operation)
      (token : operation.IsToken) (form : WaitingForm pending) :
      Begun.Carries operation (.awaitSigner pending)

/-- The ledger before and after the first stretch. -/
inductive LedgerBegin (host : Host) (before : Option Context) : Option Context × Begun → Prop where
  | quiet (after : Option Context) (begun : Begun)
      (same : after.map Context.account = before.map Context.account) (quiet : begun.Quiet) :
      LedgerBegin host before (after, begun)
  | entered (c : Context) (after : Option Context) (begun : Begun) (operation : Operation)
      (key : Bytes) (found : before = some c)
      (isKey : operation.key host c.logicalRoute c.clientId = some key)
      (fresh : key ∉ c.sentOperations)
      (account : after.map Context.account =
        some (key :: c.sentOperations, c.logicalRoute, c.clientId))
      (carries : begun.Carries operation) : LedgerBegin host before (after, begun)

theorem operation_of_metadata {host : Host} {s : State} {env : CallEnv} {context : Option Context}
    {client uri : Value} {options : Table} {identity : Identity} {pending : Pending}
    (h : Admitted host s env context client uri options (.metadata identity) pending) :
    pending.operation = none := by
  obtain ⟨method, admission⟩ := h.admitted
  have checked := admitCall_admitted admission
  obtain ⟨-, -, -, kinds, isPar, isToken, isRevocation⟩ := classify_spec checked.classified
  have notRoute : pending.endpoint.identityKind ≠ .route := by
    rw [checked.identity.1]
    decide
  have none := fun kind => notRoute (kinds.mpr kind)
  unfold Pending.operation operationOf
  rw [if_neg fun url => none (Or.inl (isPar.mp url)),
    if_neg fun url => none (Or.inr (Or.inl (isToken.mp url))),
    if_neg fun url => none (Or.inr (Or.inr (isRevocation.mp url)))]

theorem beginCall_ledger (host : Host) (s : State) (env : CallEnv) (context : Option Context)
    (client uri options : Value) :
    LedgerBegin host context (beginCall host s env context client uri options) := by
  have effect := beginCall_effect host s env context client uri options
  generalize beginCall host s env context client uri options = result at effect ⊢
  cases effect with
  | passthrough => exact .quiet _ _ rfl trivial
  | rejected after same => exact .quiet _ _ same.account trivial
  | raised after same => exact .quiet _ _ same.account trivial
  | metadata identity pending after admitted bare same =>
    exact .quiet _ _ same.account (operation_of_metadata admitted)
  | post identity pending c post after begun found admitted posted carries clientId same launched
      alive =>
    obtain ⟨method, admission⟩ := admitted.admitted
    have checked := admitCall_admitted admission
    have accepted := preparePost_prepared posted.prepared
    obtain ⟨operation, isOperation, isKey⟩ :=
      post_key checked.classified checked.identity.1 accepted
    obtain ⟨decoded, -⟩ := parseForm_decoded accepted.parsed
    have form : sentForm pending.params = post.fields := by
      unfold sentForm
      rw [accepted.body]
      simp [decoded]
    have is : pending.operation = some operation := by
      rw [Pending.operation, form]
      exact isOperation
    refine .entered c after begun operation post.replayKey found isKey posted.fresh same.account ?_
    have token : pending.endpoint.kind = .token → operation.IsToken := by
      intro kind
      have url := (classify_spec checked.classified).2.2.2.2.2.1.mpr kind
      rw [operationOf, url, if_neg (by decide), if_pos rfl] at isOperation
      exact ⟨_, (Option.some.inj isOperation).symm⟩
    cases launched with
    | sending slot => exact .sending _ is
    | awaitSigner slot c' same' signed =>
      exact .awaitSigner _ is (token signed.1) ⟨post, carries, accepted.body, decoded⟩
    | signerFailed slot signed => exact .signerFailed _ is (token signed.1)
    | raised => exact absurd rfl alive

/-- The second stretch settles the operation the call was started with. -/
theorem afterSigner_carries (host : Host) (now : Nat) (context : Option Context) {pending : Pending}
    (result : SignerResult) (form : WaitingForm pending) :
    ((afterSigner host now context pending result).2 = .signerFailed pending) ∨
      ∃ next, (afterSigner host now context pending result).2 = .sending next ∧
        next.operation = pending.operation := by
  obtain ⟨post, carries, body, decoded⟩ := form
  have effect := (afterSigner_effect host now context pending result).2
  generalize (afterSigner host now context pending result).2 = begun at effect ⊢
  cases effect with
  | failed => exact Or.inl rfl
  | signed post' assertion kind summary observation carries' answer =>
    cases carries.symm.trans carries'
    refine Or.inr ⟨_, rfl, ?_⟩
    have before : sentForm pending.params = post.fields := by
      unfold sentForm
      rw [body]
      simp [decoded]
    have after : sentForm (signedParams pending.params post.body assertion kind) =
        post.fields ++ [(ascii "client_assertion", assertion),
          (ascii "client_assertion_type", kind)] := by
      unfold sentForm
      rw [signedParams_body]
      simp only [decodedForm_assertionSuffix assertion kind decoded, Option.getD_some]
    show operationOf pending.endpoint.mappedUri
      (sentForm (signedParams pending.params post.body assertion kind)) = _
    rw [Pending.operation, before, after]
    have kept : ∀ name : Bytes, name ≠ ascii "client_assertion" → name ≠ ascii "client_assertion_type" →
        (post.fields ++ [(ascii "client_assertion", assertion),
          (ascii "client_assertion_type", kind)]).lookup name = post.fields.lookup name := by
      intro name notAssertion notType
      rw [List.lookup_append]
      simp [List.lookup_cons, beq_eq_false_iff_ne.mpr notAssertion,
        beq_eq_false_iff_ne.mpr notType]
    exact operationOf_congr _ (kept _ (by decide) (by decide)) (kept _ (by decide) (by decide))

end KonnectFapi.Source.Transport

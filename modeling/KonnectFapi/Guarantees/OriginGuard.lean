import KonnectFapi.Source.Transport.Client
import KonnectFapi.Source.Transport.GuardEffects

/-!
# The origin guard against the client's view of the target

Source: kong/plugins/fapi-as-mtls-transport/handler.lua:865-900, 1312-1359, and
the contract of docs/design/third-party-as-mtls-transport.md that calls to an
unregistered method or URL of the authorization server's origins are refused.
-/

namespace KonnectFapi.Guarantees
open Lib Lib.Lua Source.Transport

/-- An invocation with one of the fixed internal URLs and prepared options. Where
the signer completed the form, the body and its length were replaced after that. -/
structure Guarded (host : Host) (s : State) (env : CallEnv) (self options : Value)
    (pending : Pending) : Prop where
  url : pending.endpoint.mappedUri ∈ internalUrls
  options : ∃ registry identity routeName prepared correlationId,
    setMtlsOptions host s registry env self (copiedOptions options.fields) identity routeName =
        .prepared prepared correlationId ∧
      (pending.params = withoutLocator prepared ∨
        ∃ body assertion kind, pending.params =
          signedParams (withoutLocator prepared) body assertion kind)

/-- Whatever a call makes the underlying `request_uri` do is guarded. -/
def OnlyGuarded (host : Host) (s : State) (env : CallEnv) (context : Option Context)
    (self uri options : Value) : Prop :=
  match (beginCall host s env context self uri options).2 with
  | .passthrough _ _ => False
  | .sending pending => Guarded host s env self options pending
  | .awaitSigner pending => ∀ now context' result next,
      (afterSigner host now context' pending result).2 = .sending next →
        Guarded host s env self options next
  | _ => True

/-- The request's own context makes the guard refuse every unknown target. -/
def ContextRefuses (context : Option Context) (options : Value) : Prop :=
  match methodFor options.fields with
  | none => context.isSome = true
  | some _ => (context.map Context.marked).getD false = true

theorem admitCall_passthrough_iff (host : Host) (s : State) (env : CallEnv) (context : Option Context)
    (uri options : Value) :
    admitCall host s env context uri options.fields = .passthrough ↔
      ¬ (protectedOrigin uri = true ∨ ContextRefuses context options) := by
  unfold admitCall ContextRefuses
  cases hmethod : methodFor options.fields with
  | none => cases protectedOrigin uri <;> cases context <;> simp
  | some method =>
    dsimp only
    cases hclass : classify uri method with
    | none =>
      cases protectedOrigin uri <;> cases (context.map Context.marked).getD false <;> simp
    | some endpoint =>
      -- what is classified is protected, and no branch behind it passes through
      rw [(classify_spec hclass).2.1]
      simp only [true_or, not_true_eq_false, iff_false]
      intro h
      split at h
      · cases h
      split at h
      · cases h
      split at h
      · cases h
      split at h
      · split at h
        · cases h
        · split at h
          · cases h
          · split at h <;> cases h
      · split at h <;> cases h

theorem guarded_of_admitted {host : Host} {s : State} {env : CallEnv} {context : Option Context}
    {self uri options : Value} {selected : Selected} {pending : Pending}
    (h : Admitted host s env context self uri options.fields selected pending) :
    pending.endpoint.mappedUri ∈ internalUrls ∧
      ∃ registry identity routeName prepared correlationId,
        setMtlsOptions host s registry env self (copiedOptions options.fields) identity routeName =
            .prepared prepared correlationId ∧
          pending.params = withoutLocator prepared := by
  obtain ⟨method, admission⟩ := h.admitted
  obtain ⟨registry, prepared, correlationId, -, result, params⟩ := h.prepared
  exact ⟨(classify_spec (admitCall_admitted admission).classified).1, registry, selected.identity,
    selected.routeName, prepared, correlationId, result, params⟩

/-- A call leaves the guard's hands only by passing the caller's uri through. -/
theorem onlyGuarded_iff (host : Host) (s : State) (env : CallEnv) (context : Option Context)
    (self uri options : Value) :
    OnlyGuarded host s env context self uri options ↔
      protectedOrigin uri = true ∨ ContextRefuses context options := by
  have passes := admitCall_passthrough_iff host s env context uri options
  have effect := beginCall_effect host s env context self uri options
  unfold OnlyGuarded
  by_cases hpass : admitCall host s env context uri options.fields = .passthrough
  · have result : (beginCall host s env context self uri options).2 =
        .passthrough uri options.fields := by
      unfold beginCall
      rw [hpass]
    rw [result]
    simpa using passes.mp hpass
  · refine iff_of_true ?_ (not_not.mp fun open' => hpass (passes.mpr open'))
    generalize beginCall host s env context self uri options = result at effect
    cases effect with
    | passthrough admission => exact absurd admission hpass
    | rejected after same => trivial
    | raised after same => trivial
    | metadata identity pending after admitted =>
      obtain ⟨url, registry, identity, routeName, prepared, id, result, params⟩ :=
        guarded_of_admitted admitted
      exact ⟨url, registry, identity, routeName, prepared, id, result, Or.inl params⟩
    | post identity pending c post after begun found admitted posted carries client same launched =>
      obtain ⟨url, registry, identity, routeName, prepared, id, result, params⟩ :=
        guarded_of_admitted admitted
      cases launched with
      | sending slot =>
        exact ⟨url, registry, identity, routeName, prepared, id, result, Or.inl params⟩
      | awaitSigner slot c' same' signed =>
        intro now context' signer next hnext
        have signerEffect :=
          (afterSigner_effect host now context' { pending with slot := slot } signer).2
        rw [hnext] at signerEffect
        cases signerEffect with
        | signed post' assertion kind summary observation =>
          refine ⟨url, registry, identity, routeName, prepared, id, result, Or.inr
            ⟨post'.body, assertion, kind, ?_⟩⟩
          rw [← params]
      | signerFailed slot => trivial
      | raised => trivial

/-- `https://keycloak:8443/admin/`, read as documented. -/
def adminTarget : UriParts where
  scheme := some (ascii "https")
  host := ascii "keycloak"
  port := some (ascii "8443")
  rest := ascii "/admin/"

/-- The same target with a leading zero in the port. -/
def zeroPaddedTarget : UriParts := { adminTarget with port := some (ascii "08443") }

theorem splits_of_port {digits : Bytes} (nonempty : digits ≠ []) (run : digits.all isDigit = true) :
    Splits { adminTarget with port := some digits }.text
      { adminTarget with port := some digits } where
  text := rfl
  scheme := by
    rintro scheme ⟨⟩
    exact Or.inr rfl
  host := Or.inl ⟨List.cons_ne_nil _ _, rfl, rfl⟩
  port := by
    rintro found ⟨⟩
    exact ⟨nonempty, run, rfl⟩
  noPort := by rintro ⟨⟩

/-- A client that reads this one uri. -/
def clientOf (parts : UriParts) (uri : Bytes) : Option UriParts :=
  if uri = parts.text then some parts else none

theorem clientOf_documented {known : UriParts} (split : Splits known.text known) (uri : Bytes)
    (parts : UriParts) (h : clientOf known uri = some parts) : Splits uri parts := by
  unfold clientOf at h
  split at h
  · rename_i huri
    cases h
    exact huri ▸ split
  · cases h

/-- A worker that has installed the wrapper and has no configuration yet. -/
def startedState : State :=
  (initWorker default ⟨some 0, some 1, none, none, none, none⟩ ⟨fun _ => none, 0, true, true, true⟩
    State.initial).state

end KonnectFapi.Guarantees

import KonnectFapi.Guarantees.CredentialPost
import KonnectFapi.Guarantees.SigningLatch

/-!
# Route B's token body

Source: kong/plugins/fapi-as-mtls-transport/handler.lua:850-859, 902-950, 1038-1042,
1418-1437. The caller's form is sent with the two assertion fields behind it, and with
the length of the whole.
-/

namespace KonnectFapi.Guarantees
open Lib Lib.Lua Source.Transport

/-- The caller's form, completed by the signer's strings and nothing else. -/
structure CompletedForm (options params : Table) (post : Prepared) (assertion kind : Bytes) : Prop where
  own : options.get (.name "body") = .str post.body ∧ parseForm post.body = some post.fields
  sent : ∃ body, params.get (.name "body") = .str body ∧ post.body <+: body ∧
    decodedForm body = some (post.fields ++
      [(ascii "client_assertion", assertion), (ascii "client_assertion_type", kind)]) ∧
    namedHeaders (paramHeaders params) (ascii "Content-Length") =
      [(.name "Content-Length", .str (decimal body.length))]
  distinct : ((post.fields ++
    [(ascii "client_assertion", assertion), (ascii "client_assertion_type", kind)]).map Prod.fst).Nodup

/-- The guard's options have the caller's body. -/
theorem body_of_admitted {host : Host} {s : State} {env : CallEnv} {context : Option Context}
    {client uri : Value} {options : Table} {selected : Selected} {pending : Pending}
    (h : Admitted host s env context client uri options selected pending) :
    pending.params.get (.name "body") = options.get (.name "body") := by
  obtain ⟨registry, params, id, -, prepared, same⟩ := h.prepared
  obtain ⟨epoch, -, written⟩ := (setMtlsOptions_prepared prepared).written
  rw [same, written]
  unfold withoutLocator copiedOptions
  rw [Table.get_erase_of_ne _ _ _ (by decide), Table.get_erase_of_ne _ _ _ (by decide),
    tlsOptions_kept _ _ _ _ _ (by decide), Table.get_set_of_ne _ _ _ _ (by decide)]

theorem signedParams_length (params : Table) (body assertion kind : Bytes) :
    namedHeaders (paramHeaders (signedParams params body assertion kind)) (ascii "Content-Length") =
      [(.name "Content-Length", .str (decimal (body ++ assertionSuffix assertion kind).length))] := by
  have headers : paramHeaders (signedParams params body assertion kind) =
      setHeader (paramHeaders params) (ascii "Content-Length")
        (decimal (body ++ assertionSuffix assertion kind).length) := by
    unfold paramHeaders signedParams
    dsimp only
    rw [Table.get_set_self]
    rfl
  rw [headers, namedHeaders_set_self]

theorem distinct_completed {fields : Fields} (distinct : (fields.map Prod.fst).Nodup)
    (unsigned : fields.field "client_assertion" = none ∧
      fields.field "client_assertion_type" = none) (assertion kind : Bytes) :
    ((fields ++ [(ascii "client_assertion", assertion),
      (ascii "client_assertion_type", kind)]).map Prod.fst).Nodup := by
  rw [List.map_append, List.nodup_append]
  have added : [ascii "client_assertion", ascii "client_assertion_type"].Nodup := by decide +kernel
  refine ⟨distinct, added, ?_⟩
  intro name hname new hnew
  obtain ⟨field, hfield, rfl⟩ := List.mem_map.mp hname
  simp only [List.map_cons, List.map_nil, List.mem_cons, List.not_mem_nil, or_false] at hnew
  rcases hnew with rfl | rfl
  · exact not_mem_of_field unsigned.1 hfield
  · exact not_mem_of_field unsigned.2 hfield

theorem signedAssertion_returned {host : Host} {now : Rat} {clientId : Bytes} {result : SignerResult}
    {assertion kind : Bytes} {summary : AssertionSummary}
    (h : signedAssertion host now clientId result = some (assertion, kind, summary)) :
    result = .returned (.str assertion) (.str kind) := by
  unfold signedAssertion at h
  split at h
  · cases h
  · split at h
    · rename_i text isType
      obtain ⟨found, -, triple⟩ := Option.map_eq_some_iff.mp h
      cases triple
      rw [Value.isStr_iff.mp isType]
    · cases h

/-- A call that has waited for the signer sends its caller's form, completed by the strings
the signer returned; encoding loses nothing of them. -/
theorem token_body_completed (host : Host) (s : State) (env : CallEnv) (context : Option Context)
    (client uri options : Value) {pending next : Pending}
    (begun : (beginCall host s env context client uri options).2 = .awaitSigner pending) (now : Nat)
    (context' : Option Context) {result : SignerResult}
    (sent : (afterSigner host now context' pending result).2 = .sending next) :
    (∃ post assertion kind, pending.prepared = some post ∧
      result = .returned (.str assertion) (.str kind) ∧
      CompletedForm options.fields next.params post assertion kind) ∧
    ∀ value, decodeComponent (urlencode value) = some value := by
  refine ⟨?_, decodeComponent_urlencode⟩
  have effect := beginCall_effect host s env context client uri options
  generalize beginCall host s env context client uri options = first at begun effect
  cases effect with
  | passthrough | rejected | raised | metadata => cases begun
  | post identity pending' c post after begun' found admitted posted carries clientId same launched =>
    subst begun
    obtain ⟨method, admission⟩ := admitted.admitted
    obtain ⟨c', found', valid⟩ := contextIsValid_checked (admitCall_admitted admission).identity.2
    cases found.symm.trans found'
    have checked := preparePost_prepared posted.prepared
    obtain ⟨decoded, distinct⟩ := parseForm_decoded checked.parsed
    cases launched with
    | awaitSigner slot c' same' signed =>
      have signerEffect :=
        (afterSigner_effect host now context' { pending' with slot := slot } result).2
      rw [sent] at signerEffect
      cases signerEffect with
      | signed post' assertion kind summary observation carries' answer =>
        cases carries.symm.trans carries'
        have unsigned := checked.unsignedToken signed.1
          (valid.logicalRoute.trans (congrArg some signed.2))
        refine ⟨post, assertion, kind, carries, signedAssertion_returned answer, ?_⟩
        constructor
        · exact ⟨(body_of_admitted admitted).symm.trans checked.body, checked.parsed⟩
        · exact ⟨_, signedParams_body .., List.prefix_append ..,
            decodedForm_assertionSuffix assertion kind decoded, signedParams_length ..⟩
        · exact distinct_completed distinct unsigned assertion kind

/-! ## A code exchange of Route B -/

def assertionHeader : Value := .table 0 [(.name "alg", .str (ascii "PS256"))]

def assertionClaims : Value :=
  .table 0 [(.name "iss", .str routeB.clientId), (.name "sub", .str routeB.clientId),
    (.name "aud", .str issuer), (.name "jti", .str (ascii "j+/=")), (.name "iat", .num 1700000000),
    (.name "exp", .num 1700000060)]

def headerText : Bytes := (encodeFlat assertionHeader).getD []
def claimsText : Bytes := (encodeFlat assertionClaims).getD []

def demoAssertion : Bytes :=
  Base64.url headerText ++ [46] ++ Base64.url claimsText ++ [46] ++ ascii "c2ln"

def codeForm : String :=
  "client_id=third-party-fapi-pkj-mtls&grant_type=authorization_code&code=c-1"

/-- Libraries that also know this form's digest and read this assertion. -/
def tokenHost : Host :=
  { signingHost with
    digestFinal := fun input =>
      if input = canonicalForm ((parseForm (ascii codeForm)).getD []) [] then
        some (Source.Deployment.unhex
          (ascii "6efe7354e6f975ebbf9c393a7e901b0742ed5543af39bfcd78fdbf7103f0468f"))
      else signingHost.digestFinal input
    decodeBase64 := fun padded =>
      [(padBase64 (Base64.standard headerText), headerText),
        (padBase64 (Base64.standard claimsText), claimsText)].lookup padded
    cjsonDecode := fun text =>
      if text = headerText then some assertionHeader
      else if text = claimsText then some assertionClaims
      else signingHost.cjsonDecode text }

open Source.Deployment in
/-- The offline worker after both access phases of a Route B request. -/
def routeBWorld : Source.Worker.World :=
  (Source.Worker.run tokenHost offline Source.Worker.World.initial (started ++
    [.access 0 env true (some routeB.routeId),
      .bridgeAccess 0 env signingAccess (bridgeConfig "transport_delegate" (ascii "kid"))])).1

def codeExchange : Option Context × Begun :=
  beginCall tokenHost routeBWorld.modules.transport Source.Deployment.callEnv
    ((routeBWorld.requests 0).context? (some 0)) .nil (.str token) (Source.Deployment.formPost codeForm)

/-- The two pending calls of an exchange that is signed and sent. -/
def exchanged (first : Option Context × Begun) (second : Option Context → Pending → Begun) :
    Option (Pending × Pending) :=
  match first with
  | (context, .awaitSigner pending) =>
    match second context pending with
    | .sending next => some (pending, next)
    | _ => none
  | _ => none

theorem exchanged_some {first : Option Context × Begun} {second : Option Context → Pending → Begun}
    {calls : Pending × Pending} (h : exchanged first second = some calls) :
    first.2 = .awaitSigner calls.1 ∧ second first.1 calls.1 = .sending calls.2 := by
  unfold exchanged at h
  split at h
  · split at h
    · rename_i sent
      cases h
      exact ⟨rfl, sent⟩
    · cases h
  · cases h

def codeSigned (context : Option Context) (pending : Pending) : Begun :=
  (afterSigner tokenHost 1700000000 context pending
    (.returned (.str demoAssertion) (.str assertionType))).2

theorem codeExchange_sends : (exchanged codeExchange codeSigned).isSome = true := by decide +kernel

theorem token_body_completed_code : ∃ pending next post,
    exchanged codeExchange codeSigned = some (pending, next) ∧ pending.prepared = some post ∧
      CompletedForm (Source.Deployment.formPost codeForm).fields next.params post demoAssertion
        assertionType := by
  obtain ⟨⟨pending, next⟩, sends⟩ := Option.isSome_iff_exists.mp codeExchange_sends
  obtain ⟨begun, sent⟩ := exchanged_some sends
  obtain ⟨⟨post, assertion, kind, carries, returned, completed⟩, -⟩ :=
    token_body_completed tokenHost routeBWorld.modules.transport Source.Deployment.callEnv
      ((routeBWorld.requests 0).context? (some 0)) .nil (.str token)
      (Source.Deployment.formPost codeForm) begun 1700000000 codeExchange.1 sent
  cases returned
  exact ⟨pending, next, post, sends, carries, completed⟩

end KonnectFapi.Guarantees

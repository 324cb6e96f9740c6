import KonnectFapi.Lib.Base64
import KonnectFapi.Source.Bridge.Signing
import KonnectFapi.Source.Deployment
import KonnectFapi.Source.Transport.GuardEffects
import Mathlib.Algebra.Order.Ring.Rat
import Mathlib.Tactic.Linarith

/-!
# Signer and guard agree

Source: kong/plugins/fapi-client-auth-bridge/handler.lua:32-34 and 126-206,
kong/plugins/fapi-as-mtls-transport/handler.lua:968-1022 and 1224-1243. The bridge
writes the assertion without padding and in the URL alphabet; the guard splits it at
its dots, restores the alphabet and the padding, and reads the two tables back. What it
accepts is exactly the first 56 seconds of the assertion's minute.
-/

namespace KonnectFapi.Guarantees
open Lib Lib.Lua Source.Transport

/-! ## What is assumed of the libraries -/

/-- `ngx.encode_base64(v, true)` writes base64 without padding, and `ngx.decode_base64`
reads it once the padding is back. -/
structure Base64Inverts (host : Host) : Prop where
  encodes : ∀ v, host.encodeBase64 v = Base64.standard v
  decodes : ∀ v, host.decodeBase64 (padBase64 (host.encodeBase64 v)) = some v

/-- A value `cjson` writes without loss: a string, or a whole number of at most the
fourteen digits its numerals have. -/
def Lossless : Value → Prop
  | .str _ => True
  | .num q => q.den = 1 ∧ q.num.natAbs < 100000000000000
  | _ => False

/-- `cjson.decode` reads back what `cjson.encode` wrote of a table of such values. -/
def ReadsBack (host : Host) (v : Value) : Prop :=
  (∀ e ∈ v.fields, Lossless e.2) → ∀ text, host.cjsonEncode v = some text →
    text ≠ [] ∧ ∃ decoded, host.cjsonDecode text = some decoded ∧ decoded.isTable = true ∧
      ∀ name, decoded.field name = v.field name

/-! ## One segment -/

def urlByte (b : Byte) : Byte := if b = 43 then 45 else if b = 47 then 95 else b
def standardByte (b : Byte) : Byte := if b = 45 then 43 else if b = 95 then 47 else b

theorem urlByte_alnum (b : Byte) : isAlnum b = true → urlByte b = b := by
  revert b
  exact byte_forall (by decide +kernel)

theorem standardByte_alnum (b : Byte) : isAlnum b = true → standardByte b = b := by
  revert b
  exact byte_forall (by decide +kernel)

theorem base64url_eq {host : Host} (base64 : Base64Inverts host) (v : Bytes) :
    Source.Bridge.base64url host v = Base64.url v := by
  unfold Source.Bridge.base64url
  rw [base64.encodes]
  exact Base64.map_encode urlByte_alnum rfl rfl v

theorem base64url_ne_nil {host : Host} (base64 : Base64Inverts host) {v : Bytes} (h : v ≠ []) :
    Source.Bridge.base64url host v ≠ [] := by
  have length := Base64.length_encode 45 95 v
  have positive := List.length_pos_of_ne_nil h
  rw [base64url_eq base64]
  unfold Base64.url
  intro empty
  rw [empty, List.length_nil] at length
  omega

/-- The characters of a segment pass the guard's pattern. -/
theorem base64url_alphabet {host : Host} (base64 : Base64Inverts host) (v : Bytes) :
    ∀ b ∈ Source.Bridge.base64url host v, isAlnum b = true ∨ b = 45 ∨ b = 95 := by
  rw [base64url_eq base64]
  exact Base64.encode_alphabet 45 95 v

/-- No segment holds the dot that separates them. -/
theorem dot_not_mem_base64url {host : Host} (base64 : Base64Inverts host) (v : Bytes) :
    46 ∉ Source.Bridge.base64url host v := by
  intro h
  rcases base64url_alphabet base64 v 46 h with alnum | minus | line
  · exact absurd alnum (by decide)
  · exact absurd minus (by decide)
  · exact absurd line (by decide)

/-- The guard reads a segment back, whatever its length leaves modulo four. -/
theorem decodeBase64url_base64url {host : Host} (base64 : Base64Inverts host) {v : Bytes}
    (h : v ≠ []) : decodeBase64url host (Source.Bridge.base64url host v) = some v := by
  have class_ok : (Source.Bridge.base64url host v).any
      (fun b => !(isAlnum b || b == 95 || b == 45)) = false := by
    rw [List.any_eq_false]
    intro b hb
    rcases base64url_alphabet base64 v b hb with alnum | rfl | rfl
    · simp [alnum]
    · decide
    · decide
  have restored : (Source.Bridge.base64url host v).map standardByte = host.encodeBase64 v := by
    rw [base64url_eq base64, base64.encodes]
    exact Base64.map_encode standardByte_alnum rfl rfl v
  unfold decodeBase64url
  rw [if_neg (by rw [class_ok]; simp [base64url_ne_nil base64 h])]
  have decoded := base64.decodes v
  rw [← restored] at decoded
  exact decoded

/-! ## The three segments -/

/-- Two JSON texts and a signature, as `create_assertion` joins them. -/
def joined (host : Host) (header payload signature : Bytes) : Bytes :=
  Source.Bridge.base64url host header ++ ascii "." ++ Source.Bridge.base64url host payload ++
    ascii "." ++ Source.Bridge.base64url host signature

theorem splitOn_joined {host : Host} (base64 : Base64Inverts host) (header payload signature : Bytes) :
    (joined host header payload signature).splitOn 46 =
      [Source.Bridge.base64url host header, Source.Bridge.base64url host payload,
        Source.Bridge.base64url host signature] := by
  have text : joined host header payload signature =
      [46].intercalate [Source.Bridge.base64url host header, Source.Bridge.base64url host payload,
        Source.Bridge.base64url host signature] := by
    simp [joined, List.intercalate, List.intersperse, ascii]
  rw [text]
  apply List.splitOn_intercalate
  · intro segment member
    simp only [List.mem_cons, List.not_mem_nil, or_false] at member
    rcases member with rfl | rfl | rfl <;> exact dot_not_mem_base64url base64 _
  · simp

theorem parseJwt_joined {host : Host} (base64 : Base64Inverts host)
    {headerText payloadText signature : Bytes} {header payload : Value}
    (hheader : headerText ≠ []) (hpayload : payloadText ≠ []) (hsignature : signature ≠ [])
    (readHeader : host.cjsonDecode headerText = some header) (headerTable : header.isTable = true)
    (readPayload : host.cjsonDecode payloadText = some payload)
    (payloadTable : payload.isTable = true)
    (short : (joined host headerText payloadText signature).length ≤ 16384) :
    parseJwt host (joined host headerText payloadText signature) = some (header, payload) := by
  unfold parseJwt
  rw [if_neg (by omega), splitOn_joined base64]
  dsimp only
  rw [if_neg (by simp [base64url_ne_nil base64, hheader, hpayload, hsignature]),
    decodeBase64url_base64url base64 hheader, decodeBase64url_base64url base64 hpayload]
  simp [readHeader, readPayload, headerTable, payloadTable]

/-- An assertion is the two tables it was made of, under a signature of both. -/
theorem createAssertion_joined {host : Host} {env : Source.Bridge.AccessEnv} {conf : Value}
    {epoch assertion : Bytes} {s : Source.Bridge.State}
    (h : (Source.Bridge.createAssertion host env conf epoch s).2 = some assertion) :
    ∃ key nonce header payload signature, env.random = some nonce ∧ nonce.length = 32 ∧
      host.cjsonEncode (Source.Bridge.assertionHeader conf) = some header ∧
      host.cjsonEncode (Source.Bridge.assertionPayload host conf env.time nonce) = some payload ∧
      host.sign key (Source.Bridge.base64url host header ++ ascii "." ++
        Source.Bridge.base64url host payload) = some signature ∧
      assertion = joined host header payload signature := by
  unfold Source.Bridge.createAssertion at h
  dsimp only at h
  split at h
  · rename_i key nonce hkey hnonce
    split at h
    · cases h
    · rename_i length
      split at h
      · rename_i header payload hheader hpayload
        split at h
        · rename_i signature hsignature
          cases h
          exact ⟨key, nonce, header, payload, signature, hnonce, not_not.mp length, hheader, hpayload,
            hsignature, rfl⟩
        · cases h
      · cases h
  · cases h

/-! ## The two tables -/

/-- What `validate_delegate_config` leaves of a configuration's four fields. -/
structure DelegateFields (conf : Value) : Prop where
  issuer : conf.field "issuer" = .str issuer
  client : conf.field "client_id" = .str routeB.clientId
  keyId : ∃ keyId, conf.field "key_id" = .str keyId
  ttl : conf.field "assertion_ttl" = .num 60

theorem delegateFields {conf : Value} (h : Source.Bridge.validateDelegateConfig conf = true) :
    DelegateFields conf := by
  unfold Source.Bridge.validateDelegateConfig at h
  simp only [Bool.and_eq_true] at h
  obtain ⟨⟨⟨⟨⟨⟨⟨⟨⟨⟨-, -⟩, hissuer⟩, -⟩, hclient⟩, -⟩, -⟩, hkey⟩, httl⟩, -⟩, -⟩ := h
  refine ⟨Value.isStr_iff.mp hissuer, Value.isStr_iff.mp hclient, ?_,
    Value.num?_eq_some.mp (beq_iff_eq.mp httl)⟩
  split at hkey
  · rename_i keyId found
    exact ⟨keyId, found⟩
  · cases hkey

theorem assertionHeader_lossless {conf : Value} (fields : DelegateFields conf) :
    ∀ e ∈ (Source.Bridge.assertionHeader conf).fields, Lossless e.2 := by
  obtain ⟨keyId, hkey⟩ := fields.keyId
  intro e he
  simp only [Source.Bridge.assertionHeader, Value.fields, hkey, List.mem_cons, List.not_mem_nil,
    or_false] at he
  rcases he with rfl | rfl | rfl <;> trivial

theorem expiry_eq {conf : Value} (fields : DelegateFields conf) (t : Nat) :
    (t : Rat) + (conf.field "assertion_ttl").num?.getD 60 = ((t + 60 : Nat) : Rat) := by
  rw [fields.ttl, Nat.cast_add]
  rfl

theorem lossless_natCast {n : Nat} (h : n < 100000000000000) : Lossless (.num (n : Rat)) :=
  ⟨Rat.den_natCast n, by rw [Rat.num_natCast, Int.natAbs_natCast]; exact h⟩

theorem assertionPayload_lossless {host : Host} {conf : Value} (fields : DelegateFields conf)
    {t : Nat} (digits : t < 10000000000000) (nonce : Bytes) :
    ∀ e ∈ (Source.Bridge.assertionPayload host conf t nonce).fields, Lossless e.2 := by
  intro e he
  simp only [Source.Bridge.assertionPayload, Value.fields, expiry_eq fields, fields.issuer,
    fields.client, List.mem_cons, List.not_mem_nil, or_false] at he
  rcases he with rfl | rfl | rfl | rfl | rfl | rfl
  · trivial
  · exact lossless_natCast (by omega)
  · exact lossless_natCast (by omega)
  · trivial
  · trivial
  · trivial

/-- The parties an assertion of this configuration names are those the guard expects. -/
theorem validParties {host : Host} {conf header claims : Value} (base64 : Base64Inverts host)
    (fields : DelegateFields conf) {t : Nat} {nonce : Bytes} (length : nonce.length = 32)
    (sameHeader : ∀ name, header.field name = (Source.Bridge.assertionHeader conf).field name)
    (sameClaims : ∀ name,
      claims.field name = (Source.Bridge.assertionPayload host conf t nonce).field name) :
    ValidParties header claims routeB.clientId where
  alg := sameHeader "alg"
  iss := (sameClaims "iss").trans fields.client
  sub := (sameClaims "sub").trans fields.client
  aud := (sameClaims "aud").trans fields.issuer
  jti := by
    refine ⟨Source.Bridge.base64url host nonce, sameClaims "jti", base64url_ne_nil base64 ?_⟩
    intro empty
    rw [empty] at length
    cases length

theorem integral_natCast (n : Nat) : integral? (.num (n : Rat)) = some (n : Rat) := by
  unfold integral?
  exact if_pos (Rat.den_natCast n)

/-- A minute is a valid lifetime from its start to five seconds before its end. -/
theorem validTimes_iff (t : Nat) (now : Rat) :
    ValidTimes t ((t + 60 : Nat) : Rat) now true ↔ (t : Rat) ≤ now ∧ now ≤ t + 55 := by
  have expiry : ((t + 60 : Nat) : Rat) = t + 60 := by rw [Nat.cast_add]; rfl
  rw [expiry]
  constructor
  · intro times
    have remaining := times.remaining
    exact ⟨times.started, by linarith⟩
  · rintro ⟨started, remaining⟩
    exact ⟨by linarith, by linarith, started, by linarith, by linarith, fun _ => by linarith⟩

/-! ## The agreement -/

/-- `invoke_signer`: its checks of the context, then of the callback's answer. -/
def invokeSigner (host : Host) (s : State) (context : Context) (clientId : Bytes) (now : Rat)
    (result : SignerResult) : Option (Bytes × Bytes × AssertionSummary) :=
  if signerCallable s context clientId then signedAssertion host now clientId result else none

/-- Route B's guard takes the assertion at exactly the times `[t, t + 55]`. -/
structure AcceptedFrom (host : Host) (t : Nat) (assertion : Bytes) : Prop where
  summary : ∀ now : Rat,
    (assertionSummary host now assertion routeB.clientId true).isSome = true ↔
      (t : Rat) ≤ now ∧ now ≤ t + 55
  signer : ∀ (s : State) (context : Context) (now : Rat),
    signerCallable s context routeB.clientId = true →
      ((∃ answer, invokeSigner host s context routeB.clientId now
          (.returned (.str assertion) (.str assertionType)) = some answer ∧
          answer.1 = assertion ∧ answer.2.1 = assertionType) ↔
        (t : Rat) ≤ now ∧ now ≤ t + 55)

/-- What `invoke_signer` hands on is the callback's assertion when its summary is accepted. -/
theorem invokeSigner_iff {host : Host} {s : State} {context : Context} {clientId : Bytes}
    (callable : signerCallable s context clientId = true) (now : Rat) (assertion : Bytes) :
    (∃ answer, invokeSigner host s context clientId now
        (.returned (.str assertion) (.str assertionType)) = some answer ∧
        answer.1 = assertion ∧ answer.2.1 = assertionType) ↔
      (assertionSummary host now assertion clientId true).isSome = true := by
  unfold invokeSigner signedAssertion
  rw [if_pos callable]
  simp only [Value.isStr_str, beq_self_eq_true]
  cases assertionSummary host now assertion clientId true with
  | none => simp
  | some summary => simp

/-- Whatever the bridge signs under an accepted delegate configuration, the guard accepts
from the second it was made until five seconds before it expires, and at no other time. -/
theorem signer_guard_agree (host : Host) (env : Source.Bridge.AccessEnv) (conf : Value)
    (epoch : Bytes) (s : Source.Bridge.State) (assertion : Bytes) (base64 : Base64Inverts host)
    (header : ReadsBack host (Source.Bridge.assertionHeader conf))
    (payload : ∀ nonce, env.random = some nonce →
      ReadsBack host (Source.Bridge.assertionPayload host conf env.time nonce))
    (signatures : ∀ key input signature, host.sign key input = some signature → signature ≠ [])
    (valid : Source.Bridge.validateDelegateConfig conf = true) (digits : env.time < 10000000000000)
    (made : (Source.Bridge.createAssertion host env conf epoch s).2 = some assertion)
    (short : assertion.length ≤ 16384) : AcceptedFrom host env.time assertion := by
  have fields := delegateFields valid
  obtain ⟨key, nonce, headerText, payloadText, signature, random, length, encodedHeader,
    encodedPayload, signed, rfl⟩ := createAssertion_joined made
  obtain ⟨headerNonempty, readHeader, decodedHeader, headerTable, sameHeader⟩ :=
    header (assertionHeader_lossless fields) headerText encodedHeader
  obtain ⟨payloadNonempty, readClaims, decodedClaims, claimsTable, sameClaims⟩ :=
    payload nonce random (assertionPayload_lossless fields digits nonce) payloadText encodedPayload
  have jwt := parseJwt_joined base64 headerNonempty payloadNonempty (signatures _ _ _ signed)
    decodedHeader headerTable decodedClaims claimsTable short
  have iat : integral? (readClaims.field "iat") = some (env.time : Rat) := by
    rw [sameClaims]
    exact integral_natCast env.time
  have exp : integral? (readClaims.field "exp") = some ((env.time + 60 : Nat) : Rat) := by
    have written : (Source.Bridge.assertionPayload host conf env.time nonce).field "exp" =
        .num ((env.time + 60 : Nat) : Rat) := congrArg Value.num (expiry_eq fields env.time)
    rw [sameClaims, written]
    exact integral_natCast (env.time + 60)
  have summary : ∀ now : Rat,
      (assertionSummary host now (joined host headerText payloadText signature) routeB.clientId
        true).isSome = true ↔ (env.time : Rat) ≤ now ∧ now ≤ env.time + 55 := by
    intro now
    rw [assertionSummary_isSome, ← validTimes_iff]
    constructor
    · rintro ⟨header', claims', iat', exp', jwt', -, hiat, hexp, times⟩
      cases jwt.symm.trans jwt'
      cases iat.symm.trans hiat
      cases exp.symm.trans hexp
      exact times
    · intro times
      exact ⟨readHeader, readClaims, _, _, jwt,
        validParties base64 fields length sameHeader sameClaims, iat, exp, times⟩
  exact ⟨summary, fun s context now callable => (invokeSigner_iff callable now _).trans (summary now)⟩

/-! ## The deployed bridge -/

def agreedConf : Value := Source.Deployment.bridgeConfig "transport_delegate" (ascii "kid")

def agreedEnv : Source.Bridge.AccessEnv where
  files := Source.Deployment.files
  time := 1700000000
  now := 1700000000
  suppliedByClient := false
  discovery := none
  random := some (List.replicate 32 255)

/-- What `cjson.encode` writes of the two tables. -/
def writtenHeader : Bytes := ascii "\x7b\"alg\":\"PS256\",\"kid\":\"kid\",\"typ\":\"JWT\"\x7d"
def payloadText : Bytes :=
  ascii "\x7b\"aud\":\"https:\\/\\/localhost:8444\\/realms\\/fapi-demo\",\"exp\":1700000060," ++
    ascii "\"iat\":1700000000,\"iss\":\"third-party-fapi-pkj-mtls\",\"jti\":\"" ++
    Base64.url (List.replicate 32 255) ++ ascii "\",\"sub\":\"third-party-fapi-pkj-mtls\"\x7d"

/-- Libraries that write and read the two tables of this assertion and sign. -/
def agreeingHost : Host :=
  { Source.Deployment.libraries with
    encodeBase64 := Base64.standard
    decodeBase64 := fun text => Base64.decode 43 47 (text.takeWhile (· ≠ 61))
    cjsonEncode := fun v =>
      if (v.field "typ").isStr (ascii "JWT") then some writtenHeader
      else if (v.field "jti").isStr (Base64.url (List.replicate 32 255)) then some payloadText
      else none
    cjsonDecode := fun text =>
      if text = writtenHeader then some (Source.Bridge.assertionHeader agreedConf)
      else if text = payloadText then
        some (Source.Bridge.assertionPayload Source.Deployment.libraries agreedConf agreedEnv.time
          (List.replicate 32 255))
      else none
    sign := fun _ _ => some (List.replicate 384 0) }

theorem agreeingHost_base64 : Base64Inverts agreeingHost where
  encodes := fun _ => rfl
  decodes := by
    intro v
    have digits : ∀ b ∈ Base64.standard v, decide (b ≠ 61) = true := by
      intro b hb
      rcases Base64.encode_alphabet 43 47 v b hb with alnum | rfl | rfl
      · rw [decide_eq_true_eq]
        rintro rfl
        exact absurd alnum (by decide)
      · decide
      · decide
    have padding : startsWith (fun b : Byte => decide (b ≠ 61))
        (List.replicate ((4 - (Base64.standard v).length % 4) % 4) 61) = false := by
      cases (4 - (Base64.standard v).length % 4) % 4 <;> rfl
    show Base64.decode 43 47 ((padBase64 (Base64.standard v)).takeWhile (· ≠ 61)) = some v
    unfold padBase64
    rw [takeWhile_run digits padding]
    exact Base64.decode_encode 43 47 Base64.readable_standard v

theorem agreeingHost_decode (text : Bytes) : agreeingHost.cjsonDecode text =
    if text = writtenHeader then some (Source.Bridge.assertionHeader agreedConf)
    else if text = payloadText then
      some (Source.Bridge.assertionPayload Source.Deployment.libraries agreedConf agreedEnv.time
        (List.replicate 32 255))
    else none := rfl

theorem agreeingHost_header :
    ReadsBack agreeingHost (Source.Bridge.assertionHeader agreedConf) := by
  intro _ text written
  have encoded : agreeingHost.cjsonEncode (Source.Bridge.assertionHeader agreedConf) =
      some writtenHeader := by decide +kernel
  cases encoded.symm.trans written
  refine ⟨by decide +kernel, Source.Bridge.assertionHeader agreedConf, ?_, rfl, fun _ => rfl⟩
  rw [agreeingHost_decode, if_pos rfl]

theorem agreeingHost_payload (nonce : Bytes) (random : agreedEnv.random = some nonce) :
    ReadsBack agreeingHost
      (Source.Bridge.assertionPayload agreeingHost agreedConf agreedEnv.time nonce) := by
  cases random
  intro _ text written
  have encoded : agreeingHost.cjsonEncode (Source.Bridge.assertionPayload agreeingHost agreedConf
      agreedEnv.time (List.replicate 32 255)) = some payloadText := by decide +kernel
  cases encoded.symm.trans written
  have other : ¬ payloadText = writtenHeader := by decide +kernel
  refine ⟨by decide +kernel, Source.Bridge.assertionPayload Source.Deployment.libraries agreedConf
    agreedEnv.time (List.replicate 32 255), ?_, rfl, fun _ => rfl⟩
  rw [agreeingHost_decode, if_neg other, if_pos rfl]

def agreedAssertion : Bytes :=
  joined agreeingHost writtenHeader payloadText (List.replicate 384 0)

theorem signer_guard_agree_deployed : AcceptedFrom agreeingHost 1700000000 agreedAssertion :=
  signer_guard_agree agreeingHost agreedEnv agreedConf (ascii "epoch") Source.Bridge.State.initial
    agreedAssertion agreeingHost_base64 agreeingHost_header agreeingHost_payload
    (fun _ _ _ signed => by cases signed; decide)
    (Source.Deployment.bridgeConfig_valid (ascii "kid") (by decide) (by decide)) (by decide)
    (by decide +kernel) (by decide +kernel)

end KonnectFapi.Guarantees

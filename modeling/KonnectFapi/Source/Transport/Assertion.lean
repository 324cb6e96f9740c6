import KonnectFapi.Source.Transport.Host

/-!
# Client assertions

Source: kong/plugins/fapi-as-mtls-transport/handler.lua:968-1022. Only the shape
of the JWT and its claims are read; the signature is the server's to check.
-/

namespace KonnectFapi.Source.Transport
open Lib Lib.Lua

def padBase64 (value : Bytes) : Bytes :=
  value ++ List.replicate ((4 - value.length % 4) % 4) 61

def decodeBase64url (host : Host) (value : Bytes) : Option Bytes :=
  if value = [] ∨ value.any fun b => !(isAlnum b || b == 95 || b == 45) then none
  else
    host.decodeBase64
      (padBase64 (value.map fun b => if b = 45 then 43 else if b = 95 then 47 else b))

/-- `assertion:match("^([^.]+)%.([^.]+)%.([^.]+)$")` and the two decodings. -/
def parseJwt (host : Host) (assertion : Bytes) : Option (Value × Value) :=
  if 16384 < assertion.length then none
  else
    match assertion.splitOn 46 with
    | [headerPart, payloadPart, signature] =>
      if headerPart = [] ∨ payloadPart = [] ∨ signature = [] then none
      else do
        let headerJson ← decodeBase64url host headerPart
        let payloadJson ← decodeBase64url host payloadPart
        let header ← host.cjsonDecode headerJson
        let claims ← host.cjsonDecode payloadJson
        if header.isTable ∧ claims.isTable then some (header, claims) else none
    | _ => none

structure AssertionSummary where
  alg : Bytes
  audIsIssuer : Bool
  issSubMatch : Bool
  ttlSeconds : Rat
  jtiPresent : Bool
  deriving DecidableEq

/-- `type(v) == "number" and v % 1 == 0` -/
def integral? (v : Value) : Option Rat :=
  match v with
  | .num q => if q.den = 1 then some q else none
  | _ => none

/-- The conditions `assertion_summary` puts on the times of a claim set. -/
structure ValidTimes (iat exp now : Rat) (exactTtl : Bool) : Prop where
  after : iat < exp
  bounded : exp - iat ≤ 60
  started : iat ≤ now
  unexpired : now < exp
  remaining : 5 ≤ exp - now
  exact : exactTtl = true → exp - iat = 60

instance (iat exp now : Rat) (exactTtl : Bool) : Decidable (ValidTimes iat exp now exactTtl) :=
  decidable_of_iff (iat < exp ∧ exp - iat ≤ 60 ∧ iat ≤ now ∧ now < exp ∧ 5 ≤ exp - now ∧
      (exactTtl = true → exp - iat = 60))
    ⟨fun ⟨a, b, c, d, e, f⟩ => ⟨a, b, c, d, e, f⟩, fun ⟨a, b, c, d, e, f⟩ => ⟨a, b, c, d, e, f⟩⟩

/-- The conditions it puts on everything else. -/
structure ValidParties (header claims : Value) (clientId : Bytes) : Prop where
  alg : header.field "alg" = .str (ascii "PS256")
  iss : claims.field "iss" = .str clientId
  sub : claims.field "sub" = .str clientId
  aud : claims.field "aud" = .str issuer
  jti : ∃ jti, claims.field "jti" = .str jti ∧ jti ≠ []

def checkParties (header claims : Value) (clientId : Bytes) : Bool :=
  (header.field "alg").isStr (ascii "PS256") && (claims.field "iss").isStr clientId &&
    (claims.field "sub").isStr clientId && (claims.field "aud").isStr issuer &&
    (match claims.field "jti" with
      | .str jti => jti ≠ []
      | _ => false)

theorem checkParties_iff {header claims : Value} {clientId : Bytes} :
    checkParties header claims clientId = true ↔ ValidParties header claims clientId := by
  have jti : (match claims.field "jti" with
        | .str jti => decide (jti ≠ [])
        | _ => false) = true ↔ ∃ jti, claims.field "jti" = .str jti ∧ jti ≠ [] := by
    cases claims.field "jti" <;> simp
  unfold checkParties
  rw [Bool.and_eq_true, Bool.and_eq_true, Bool.and_eq_true, Bool.and_eq_true,
    Value.isStr_iff, Value.isStr_iff, Value.isStr_iff, Value.isStr_iff, jti]
  exact ⟨fun ⟨⟨⟨⟨a, b⟩, c⟩, d⟩, e⟩ => ⟨a, b, c, d, e⟩, fun ⟨a, b, c, d, e⟩ => ⟨⟨⟨⟨a, b⟩, c⟩, d⟩, e⟩⟩

def assertionSummary (host : Host) (now : Rat) (assertion clientId : Bytes) (exactTtl : Bool) :
    Option AssertionSummary :=
  match parseJwt host assertion with
  | none => none
  | some (header, claims) =>
    match integral? (claims.field "iat"), integral? (claims.field "exp") with
    | some iat, some exp =>
      if checkParties header claims clientId = true ∧ ValidTimes iat exp now exactTtl then
        some { alg := ascii "PS256", audIsIssuer := true, issSubMatch := true,
               ttlSeconds := exp - iat, jtiPresent := true }
      else none
    | _, _ => none

/-- What an accepted assertion is known to say. -/
structure AcceptedAssertion (host : Host) (now : Rat) (assertion clientId : Bytes)
    (exactTtl : Bool) : Prop where
  shape : ∃ header claims iat exp, parseJwt host assertion = some (header, claims) ∧
    ValidParties header claims clientId ∧
    integral? (claims.field "iat") = some iat ∧ integral? (claims.field "exp") = some exp ∧
    ValidTimes iat exp now exactTtl

theorem assertionSummary_isSome {host : Host} {now : Rat} {assertion clientId : Bytes}
    {exactTtl : Bool} :
    (assertionSummary host now assertion clientId exactTtl).isSome = true ↔
      AcceptedAssertion host now assertion clientId exactTtl := by
  unfold assertionSummary
  constructor
  · intro h
    split at h
    · cases h
    · rename_i header claims hjwt
      split at h
      · rename_i iat exp hiat hexp
        split at h
        · rename_i hc
          exact ⟨header, claims, iat, exp, hjwt, checkParties_iff.mp hc.1, hiat, hexp, hc.2⟩
        · cases h
      · cases h
  · rintro ⟨header, claims, iat, exp, hjwt, parties, hiat, hexp, times⟩
    simp only [hjwt, hiat, hexp, checkParties_iff.mpr parties, times, and_self, if_true,
      Option.isSome_some]

end KonnectFapi.Source.Transport

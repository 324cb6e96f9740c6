import KonnectFapi.Source.Transport.FormDecoding
import KonnectFapi.Source.Transport.GuardEffects

/-!
# Credential operations and their ledger keys

Source: kong/plugins/fapi-as-mtls-transport/handler.lua:1159-1170, 1209-1222. An
operation is what a credential POST asks for, read off the body that goes out. The
key the guard enters for it depends on the operation and the context only.
-/

namespace KonnectFapi.Source.Transport
open Lib Lib.Lua

inductive Operation where
  | par
  | token (grantType : Bytes)
  | revocation (token : Bytes)
  deriving DecidableEq

/-- The form the signer completes reads back as the caller's and the two assertion fields. -/
theorem decodedForm_assertionSuffix {body : Bytes} {fields : Fields} (assertion kind : Bytes)
    (h : decodedForm body = some fields) :
    decodedForm (body ++ assertionSuffix assertion kind) =
      some (fields ++ [(ascii "client_assertion", assertion),
        (ascii "client_assertion_type", kind)]) := by
  have text : body ++ assertionSuffix assertion kind = body ++ ascii "&" ++
      (ascii "client_assertion" ++ ascii "=" ++ urlencode assertion) ++ ascii "&" ++
      (ascii "client_assertion_type" ++ ascii "=" ++ urlencode kind) := by
    simp [assertionSuffix, ascii]
  rw [text]
  exact decodedForm_signed assertion kind h

/-- The form the client is handed. -/
def sentForm (params : Table) : Fields :=
  match params.get (.name "body") with
  | .str body => (decodedForm body).getD []
  | _ => []

/-- The operation a form posted to a URL asks for. -/
def operationOf (url : Bytes) (fields : Fields) : Option Operation :=
  if url = par then some .par
  else if url = token then some (.token ((fields.field "grant_type").getD []))
  else if url = revocation then some (.revocation ((fields.field "token").getD []))
  else none

/-- What a call asks the authorization server for; metadata requests ask for nothing. -/
def Pending.operation (pending : Pending) : Option Operation :=
  operationOf pending.endpoint.mappedUri (sentForm pending.params)

/-- The fields an operation is read off. -/
theorem operationOf_congr (url : Bytes) {fields fields' : Fields}
    (grant : fields'.field "grant_type" = fields.field "grant_type")
    (value : fields'.field "token" = fields.field "token") :
    operationOf url fields' = operationOf url fields := by
  unfold operationOf
  rw [grant, value]

/-- The digest a revocation's key is built from. -/
def revocationDigest (host : Host) (clientId token : Bytes) : Option Bytes :=
  (sha256 host token).bind fun tokenDigest => sha256 host (clientId ++ [0] ++ tokenDigest)

/-- The ledger key of an operation on a context. -/
def Operation.key (host : Host) (logicalRoute clientId : Option Bytes) :
    Operation → Option Bytes
  | .par => some (operationKey (logicalRoute.getD []) .par none [])
  | .token grantType => some (operationKey (logicalRoute.getD []) .token (some grantType) [])
  | .revocation value =>
    (revocationDigest host (clientId.getD []) value).map
      (operationKey (logicalRoute.getD []) .revocation none)

theorem operationKey_eq (logicalRoute : Bytes) (kind : EndpointKind) (grantType : Option Bytes)
    (digest : Bytes) :
    operationKey logicalRoute kind grantType digest =
      logicalRoute ++ 0 :: (kind.text ++ 0 :: (grantType.getD [] ++ 0 ::
        (if kind = .revocation then digest else ascii "single-send"))) := by
  simp [operationKey, join]

/-- Operation and context determine the key of an accepted post. -/
theorem post_key {host : Host} {now : Rat} {c : Context} {identity : RouteIdentity} {uri : Value}
    {method : Bytes} {endpoint : Endpoint} {params : Table} {post : Prepared}
    (classified : classify uri method = some endpoint) (route : endpoint.identityKind = .route)
    (checked : PostChecked host now c identity endpoint.kind params post) :
    ∃ operation, operationOf endpoint.mappedUri post.fields = some operation ∧
      operation.key host c.logicalRoute c.clientId = some post.replayKey := by
  obtain ⟨-, -, -, kinds, isPar, isToken, isRevocation⟩ := classify_spec classified
  have digest := checked.digest
  have grant := checked.grant
  rw [checked.key]
  rcases kinds.mp route with kind | kind | kind
  · refine ⟨.par, ?_, ?_⟩
    · rw [operationOf, isPar.mpr kind, if_pos rfl]
    · rw [grant, kind]
      simp [Operation.key, operationKey_eq]
  · refine ⟨.token ((post.fields.field "grant_type").getD []), ?_, ?_⟩
    · rw [operationOf, isToken.mpr kind, if_neg (by decide), if_pos rfl]
    · rw [grant, kind]
      simp [Operation.key, operationKey_eq]
  · refine ⟨.revocation ((post.fields.field "token").getD []), ?_, ?_⟩
    · rw [operationOf, isRevocation.mpr kind, if_neg (by decide), if_neg (by decide), if_pos rfl]
    · have same : revocationDigest host (c.clientId.getD [])
          ((post.fields.field "token").getD []) = some post.digest := by
        simpa [revocationDigest, operationDigest, kind] using digest
      rw [grant, kind]
      simp [Operation.key, same]

/-! ## Keys tell operations apart -/

/-- No two texts with a digest share it. -/
def CollisionFree (host : Host) : Prop :=
  ∀ a b, (host.digestFinal a).isSome = true → host.digestFinal a = host.digestFinal b → a = b

/-- A table whose digests all differ has no collision. -/
theorem collisionFree_of_table {α : Type*} (table : List (Bytes × α)) (digest : α → Bytes)
    {host : Host} (known : host.digestFinal = fun input => (table.lookup input).map digest)
    (distinct : (table.map fun entry => digest entry.2).Nodup) : CollisionFree host := by
  have member : ∀ {input value}, table.lookup input = some value → (input, value) ∈ table := by
    intro input value found
    obtain ⟨before, after, split, -⟩ := List.lookup_eq_some_iff.mp found
    simp [split]
  intro a b some same
  rw [known] at some same
  simp only [Option.isSome_map, Option.isSome_iff_exists] at some
  obtain ⟨valueA, hA⟩ := some
  simp only [hA, Option.map_some] at same
  obtain ⟨valueB, hB, digests⟩ := Option.map_eq_some_iff.mp same.symm
  exact congrArg Prod.fst
    (List.inj_on_of_nodup_map distinct (member hA) (member hB) digests.symm)

theorem CollisionFree.sha256_inj {host : Host} (h : CollisionFree host) {a b text : Bytes}
    (ha : sha256 host a = some text) (hb : sha256 host b = some text) : a = b := by
  refine h a b ?_ (Transport.sha256_inj ha hb)
  unfold sha256 at ha
  split at ha
  · rename_i found
    rw [found]
    rfl
  · cases ha

theorem revocationDigest_inj {host : Host} (free : CollisionFree host) {clientId a b text : Bytes}
    (ha : revocationDigest host clientId a = some text)
    (hb : revocationDigest host clientId b = some text) : a = b := by
  obtain ⟨first, hfirst, outerA⟩ := Option.bind_eq_some_iff.mp ha
  obtain ⟨second, hsecond, outerB⟩ := Option.bind_eq_some_iff.mp hb
  have same := List.append_cancel_left (free.sha256_inj outerA outerB)
  exact free.sha256_inj hfirst (same ▸ hsecond)

/-- The kind is what stands between the first two separators. -/
theorem kindText_inj {kind kind' : EndpointKind} {rest rest' : Bytes}
    (h : kind.text ++ 0 :: rest = kind'.text ++ 0 :: rest') : kind = kind' ∧ rest = rest' := by
  have plain : ∀ kind : EndpointKind, ∀ b ∈ kind.text, (b != 0) = true := by
    intro kind
    cases kind <;> decide +kernel
  have taken : ∀ (kind : EndpointKind) (rest : Bytes),
      (kind.text ++ 0 :: rest).takeWhile (· != 0) = kind.text := fun kind rest =>
    takeWhile_run (plain kind) (by simp [startsWith])
  have texts : kind.text = kind'.text := by rw [← taken kind rest, h, taken]
  have kinds : kind = kind' := by
    revert texts
    cases kind <;> cases kind' <;> decide
  subst kinds
  exact ⟨rfl, by simpa using h⟩

theorem Operation.key_injective {host : Host} (free : CollisionFree host)
    {logicalRoute clientId : Option Bytes} {first second : Operation} {key : Bytes}
    (h : first.key host logicalRoute clientId = some key)
    (h' : second.key host logicalRoute clientId = some key) : first = second := by
  have shape : ∀ operation : Operation, operation.key host logicalRoute clientId = some key →
      ∃ kind grantType digest, key = operationKey (logicalRoute.getD []) kind grantType digest ∧
        ((kind = .par ∧ operation = .par) ∨
          (kind = .token ∧ ∃ grant, grantType = some grant ∧ operation = .token grant) ∨
          (kind = .revocation ∧ grantType = none ∧ ∃ token, operation = .revocation token ∧
            revocationDigest host (clientId.getD []) token = some digest)) := by
    intro operation hkey
    cases operation with
    | par => exact ⟨.par, none, [], (Option.some.inj hkey).symm, Or.inl ⟨rfl, rfl⟩⟩
    | token grant =>
      exact ⟨.token, some grant, [], (Option.some.inj hkey).symm, Or.inr (Or.inl ⟨rfl, grant, rfl, rfl⟩)⟩
    | revocation token =>
      obtain ⟨digest, hdigest, same⟩ := Option.map_eq_some_iff.mp hkey
      exact ⟨.revocation, none, digest, same.symm, Or.inr (Or.inr ⟨rfl, rfl, token, rfl, hdigest⟩)⟩
  obtain ⟨kind, grantType, digest, hkey, one⟩ := shape first h
  obtain ⟨kind', grantType', digest', hkey', other⟩ := shape second h'
  rw [hkey, operationKey_eq, operationKey_eq] at hkey'
  obtain ⟨rfl, rest⟩ := kindText_inj (List.cons.inj (List.append_cancel_left hkey')).2
  rcases one with ⟨rfl, rfl⟩ | ⟨rfl, grant, rfl, rfl⟩ | ⟨rfl, rfl, token, rfl, hdigest⟩
  · rcases other with ⟨-, rfl⟩ | ⟨h, -⟩ | ⟨h, -⟩
    · rfl
    · cases h
    · cases h
  · rcases other with ⟨h, -⟩ | ⟨-, grant', rfl, rfl⟩ | ⟨h, -⟩
    · cases h
    · have grants : grant = grant' := List.append_cancel_right rest
      rw [grants]
    · cases h
  · rcases other with ⟨h, -⟩ | ⟨h, -⟩ | ⟨-, rfl, token', rfl, hdigest'⟩
    · cases h
    · cases h
    · have digests : digest = digest' := by simpa using rest
      rw [revocationDigest_inj free hdigest (digests ▸ hdigest')]

end KonnectFapi.Source.Transport

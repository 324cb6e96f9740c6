import KonnectFapi.Source.Transport.Manifest

/-!
# Libraries and process environment

What the handlers call outside this repository: digests, X.509 and key objects,
PEM parsing, base64 and JSON decoding. Each is an arbitrary function; results
that need more name the assumption. A certificate or key object is represented
by the bytes it stands for. Library calls answer a value or nothing; they do not
raise.
-/

namespace KonnectFapi.Source.Transport
open Lib Lib.Lua

structure X509 where
  der : Bytes
  deriving DecidableEq

structure PKey where
  material : Bytes
  deriving DecidableEq

/-- Opaque certificate chain or key pointer handed to the HTTP client. -/
structure Cdata where
  content : Bytes
  deriving DecidableEq

structure Host where
  /-- `digest_lib.new("sha256")` and `context:final(value)`. -/
  digestFinal : Bytes → Option Bytes
  /-- `x509.new(pem, "PEM")`. -/
  x509New : Bytes → Option X509
  /-- `pkey.new(pem)`. -/
  pkeyNew : Bytes → Option PKey
  checkPrivateKey : X509 → PKey → Bool
  /-- `cert:get_lifetime()`. -/
  getLifetime : X509 → Option (Rat × Rat)
  /-- `cert:get_extension("extendedKeyUsage"):text()`. -/
  extendedKeyUsage : X509 → Option Bytes
  /-- `cert:digest("sha256")`. -/
  certDigest : X509 → Option Bytes
  parsePemCert : Bytes → Option Cdata
  parsePemPrivKey : Bytes → Option Cdata
  /-- Leaf of `x509_chain.dup(ffi.cast(.., cert_cdata))`. -/
  chainLeaf : Value → Option X509
  /-- `pkey.new(ffi.cast(.., key_cdata))`. -/
  pkeyCast : Value → Option PKey
  /-- `ngx.decode_base64` and `ngx.encode_base64(value, true)`. -/
  decodeBase64 : Bytes → Option Bytes
  encodeBase64 : Bytes → Bytes
  cjsonDecode : Bytes → Option Value
  cjsonEncode : Value → Option Bytes
  /-- `key:sign(input, "sha256", RSA_PKCS1_PSS_PADDING, ..)`. -/
  sign : PKey → Bytes → Option Bytes
  /-- `tostring` where its text is a matter of address or of exponent layout. -/
  tostringOther : Value → Bytes
  deriving Inhabited

/-- Environment variables and worker identity of one process. -/
structure Process where
  /-- `ngx.worker.id()` and `ngx.worker.pid()`. -/
  workerId : Option Nat
  workerPid : Option Nat
  generation : Option Bytes
  statusDir : Option Bytes
  bootstrapIssuer : Option Bytes
  bootstrapOrigin : Option Bytes

/-- handler.lua:98-111 -/
def sha256 (host : Host) (value : Bytes) : Option Bytes :=
  match host.digestFinal value with
  | some result => if result.length = 32 then some (hex result) else none
  | none => none

/-- `tostring`. Integers of at most fourteen digits print as decimal numerals. -/
def tostring (host : Host) : Value → Bytes
  | .str s => s
  | .nil => ascii "nil"
  | .bool b => ascii (if b then "true" else "false")
  | .num q =>
    if q.den = 1 ∧ q.num.natAbs < 100000000000000 then
      (if q.num < 0 then ascii "-" else []) ++ decimal q.num.natAbs
    else host.tostringOther (.num q)
  | v => host.tostringOther v

/-- `tostring(value or "")`. -/
def tostringOr (host : Host) (v : Value) : Bytes := if v.truthy then tostring host v else []

/-- `read_limited` on a file whose content is `content`. -/
def readLimited (content : Option Bytes) (maxBytes : Nat) : Option Bytes :=
  match content with
  | some value => if value.length = 0 ∨ maxBytes < value.length then none else some value
  | none => none

/-- The digest text is 64 hexadecimal digits. -/
theorem sha256_length {host : Host} {value text : Bytes} (h : sha256 host value = some text) :
    text.length = 64 := by
  unfold sha256 at h
  split at h
  · split at h
    · rename_i hlen
      cases h
      rw [hex_length, hlen]
    · cases h
  · cases h

/-- Two inputs with one digest text have one digest. -/
theorem sha256_inj {host : Host} {a b text : Bytes} (ha : sha256 host a = some text)
    (hb : sha256 host b = some text) : host.digestFinal a = host.digestFinal b := by
  unfold sha256 at ha hb
  split at ha
  · rename_i ra hra
    split at hb
    · rename_i rb hrb
      split at ha <;> split at hb <;> simp_all
      exact hex_injective (ha.trans hb.symm)
    · cases hb
  · cases ha

end KonnectFapi.Source.Transport

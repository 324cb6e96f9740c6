import KonnectFapi.Lib.Base64
import KonnectFapi.Lib.BigEndian
import KonnectFapi.Lib.HeaderFields
import KonnectFapi.Lib.Refusal

/-!
# RSA key export

Source: scripts/export-rsa-jwk.py:13-58. The parser runs on what `openssl rsa` printed,
which is an input here. Indexing past the end raises; a slice there is short.
-/

namespace KonnectFapi.Source.RsaExport
open Lib

/-- `data[start:stop]`. -/
def slice (data : Bytes) (start stop : Nat) : Bytes := (data.drop start).take (stop - start)

def readLength (data : Bytes) (offset : Nat) : Except Refused (Nat × Nat) :=
  match data[offset]? with
  | none => .error .raised
  | some first =>
    if first.toNat < 128 then .ok (first.toNat, offset + 1)
    else
      let count := first.toNat % 128
      if count = 0 ∨ 4 < count then fail "unsupported DER length"
      else .ok (fromBytes (slice data (offset + 1) (offset + 1 + count)), offset + 1 + count)

def readValue (data : Bytes) (offset : Nat) (expectedTag : Byte) : Except Refused (Bytes × Nat) :=
  if data[offset]? = some expectedTag then
    match readLength data (offset + 1) with
    | .error e => .error e
    | .ok (length, start) =>
      if data.length < start + length then fail "truncated DER value"
      else .ok (slice data start (start + length), start + length)
  else
    .error (.valueError (text "unexpected DER tag at offset " ++ ofAscii (decimal offset)))

theorem readLength_start {data : Bytes} {offset length start : Nat}
    (h : readLength data offset = .ok (length, start)) : offset < start := by
  unfold readLength at h
  split at h
  · cases h
  · split at h
    · cases h
      omega
    · dsimp only at h
      split at h
      · cases h
      · cases h
        omega

/-- A value that was read ends behind where it began. -/
theorem readValue_end {data : Bytes} {offset : Nat} {tag : Byte} {contents : Bytes} {stop : Nat}
    (h : readValue data offset tag = .ok (contents, stop)) : offset < stop ∧ stop ≤ data.length := by
  unfold readValue at h
  split at h
  · split at h
    · cases h
    · rename_i length start read
      have begins := readLength_start read
      split at h
      · cases h
      · cases h
        omega
  · cases h

/-- The loop over the members of the sequence. -/
def readIntegers (sequence : Bytes) (offset : Nat) : Except Refused (List Nat) :=
  if _inside : offset < sequence.length then
    match _read : readValue sequence offset 2 with
    | .error e => .error e
    | .ok (encoded, next) =>
      match readIntegers sequence next with
      | .error e => .error e
      | .ok later => .ok (fromBytes encoded :: later)
  else .ok []
termination_by sequence.length - offset
decreasing_by
  have advances := readValue_end _read
  omega

/-- `read_rsa_private_key`, from the output of `openssl`. -/
def readRsaPrivateKey (output : Bytes) : Except Refused (List Nat) :=
  match readValue output 0 48 with
  | .error e => .error e
  | .ok (sequence, stop) =>
    if stop ≠ output.length then fail "unexpected trailing DER data"
    else
      match readIntegers sequence 0 with
      | .error e => .error e
      | .ok values =>
        if values.length ≠ 9 ∨ ¬ (values.head? = some 0 ∨ values.head? = some 1) then
          fail "unsupported RSA private key"
        else .ok values.tail

/-- `base64.urlsafe_b64encode(bs)`. -/
def urlsafeB64encode (bs : Bytes) : Bytes :=
  Base64.url bs ++ List.replicate ((4 - (Base64.url bs).length % 4) % 4) 61

def base64urlUint (value : Nat) : Text :=
  let size := max 1 ((bitLength value + 7) / 8)
  ofAscii ((urlsafeB64encode (toBytes size value)).rdropWhile (· = 61))

end KonnectFapi.Source.RsaExport

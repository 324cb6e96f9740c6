import KonnectFapi.Lib.Der
import KonnectFapi.Source.RsaExport

/-!
# RSA key export round trip

Source: scripts/export-rsa-jwk.py:13-58. The parser reads a distinguished encoding back.
A result never depends on what follows the value it was read from, which is why nothing
shorter or longer than the encoding is taken for a key.
-/

namespace KonnectFapi.Guarantees
open Lib Source.RsaExport

/-! ## Reading goes no further than what it read -/

theorem slice_append {data extra : Bytes} {start stop : Nat} (h : stop ≤ data.length) :
    slice (data ++ extra) start stop = slice data start stop := by
  unfold slice
  rcases Nat.le_total start data.length with inside | outside
  · rw [List.drop_append_of_le_length inside, List.take_append_of_le_length]
    rw [List.length_drop]
    omega
  · have none_ : stop - start = 0 := by omega
    rw [none_, List.take_zero, List.take_zero]

theorem readLength_append {data extra : Bytes} {offset length start : Nat}
    (h : readLength data offset = .ok (length, start)) (inside : start ≤ data.length) :
    readLength (data ++ extra) offset = .ok (length, start) := by
  unfold readLength at h ⊢
  split at h
  · cases h
  · rename_i first found
    obtain ⟨bound, -⟩ := List.getElem?_eq_some_iff.mp found
    rw [List.getElem?_append_left bound, found]
    dsimp only
    split at h
    · rename_i short
      rw [if_pos short]
      exact h
    · rename_i long
      rw [if_neg long]
      dsimp only at h
      split at h
      · cases h
      · rename_i supported
        rw [if_neg supported]
        cases h
        rw [slice_append inside]

theorem readValue_append {data : Bytes} (extra : Bytes) {offset : Nat} {tag : Byte}
    {contents : Bytes} {stop : Nat} (h : readValue data offset tag = .ok (contents, stop)) :
    readValue (data ++ extra) offset tag = .ok (contents, stop) := by
  have ends := readValue_end h
  unfold readValue at h ⊢
  split at h
  · rename_i found
    obtain ⟨bound, -⟩ := List.getElem?_eq_some_iff.mp found
    rw [List.getElem?_append_left bound, if_pos found]
    split at h
    · cases h
    · rename_i length start read
      split at h
      · cases h
      · rename_i whole
        cases h
        rw [readLength_append read (by omega)]
        dsimp only
        rw [if_neg (by rw [List.length_append]; omega), slice_append (by omega)]
  · cases h

/-! ## Reading what was written -/

theorem slice_middle (front middle back : Bytes) :
    slice (front ++ (middle ++ back)) front.length (front.length + middle.length) = middle := by
  unfold slice
  rw [List.drop_left, Nat.add_sub_cancel_left, List.take_left]

theorem getElem?_front (front : Bytes) (b : Byte) (back : Bytes) :
    (front ++ b :: back)[front.length]? = some b := by
  rw [List.getElem?_append_right (Nat.le_refl _), Nat.sub_self]
  rfl

theorem toNat_ofNat_small {n : Nat} (h : n < 256) : (UInt8.ofNat n).toNat = n := by
  rw [UInt8.toNat_ofNat']
  omega

theorem readLength_encode (front back : Bytes) {n : Nat} (bound : n < 2 ^ 32) :
    readLength (front ++ (Der.encodeLength n ++ back)) front.length =
      .ok (n, front.length + (Der.encodeLength n).length) := by
  unfold Der.encodeLength
  split
  · rename_i short
    unfold readLength
    rw [List.singleton_append, getElem?_front]
    dsimp only
    rw [toNat_ofNat_small (by omega), if_pos short]
    rfl
  · rename_i long
    obtain ⟨one, four⟩ := Der.byteLength_bounds bound
    have length : (shortest n).length = byteLength n := length_toBytes ..
    have middle := slice_middle (front ++ [UInt8.ofNat (128 + byteLength n)]) (shortest n) back
    rw [List.length_append, List.length_singleton, List.append_assoc, List.singleton_append,
      length] at middle
    unfold readLength
    rw [List.cons_append, getElem?_front]
    dsimp only
    have count : (128 + byteLength n) % 128 = byteLength n := by omega
    rw [toNat_ofNat_small (by omega), if_neg (by omega), count, if_neg (by omega), middle,
      fromBytes_shortest, List.length_cons, length, Nat.add_assoc, Nat.add_comm 1]

theorem readValue_encode (front back : Bytes) (tag : Byte) {contents : Bytes}
    (bound : contents.length < 2 ^ 32) :
    readValue (front ++ (Der.encodeValue tag contents ++ back)) front.length tag =
      .ok (contents, front.length + (Der.encodeValue tag contents).length) := by
  have shape : front ++ (Der.encodeValue tag contents ++ back) =
      (front ++ [tag]) ++ (Der.encodeLength contents.length ++ (contents ++ back)) := by
    simp [Der.encodeValue]
  have length : (front ++ [tag]).length = front.length + 1 := by simp
  have read := readLength_encode (front ++ [tag]) (contents ++ back) bound
  have middle := slice_middle (front ++ [tag] ++ Der.encodeLength contents.length) contents back
  rw [List.append_assoc _ (Der.encodeLength _)] at middle
  rw [← shape, length] at read
  rw [List.length_append, length, ← shape] at middle
  have total : (Der.encodeValue tag contents).length =
      1 + (Der.encodeLength contents.length).length + contents.length := by
    simp [Der.encodeValue]
    omega
  have first : (front ++ (Der.encodeValue tag contents ++ back))[front.length]? = some tag :=
    getElem?_front ..
  unfold readValue
  rw [if_pos first, read]
  dsimp only
  rw [if_neg (by simp only [List.length_append, total]; omega), middle, total]
  congr 2
  omega

/-- The loop reads INTEGERs back from wherever they stand. -/
theorem readIntegers_encode (front : Bytes) (values : List Nat)
    (bound : (values.flatMap Der.encodeInteger).length < 2 ^ 32) :
    readIntegers (front ++ values.flatMap Der.encodeInteger) front.length = .ok values := by
  induction values generalizing front with
  | nil =>
    rw [readIntegers, dif_neg (by simp)]
  | cons value rest ih =>
    rw [List.flatMap_cons, List.length_append] at bound
    have small : (Der.integerContents value).length < 2 ^ 32 := by
      have : (Der.integerContents value).length ≤ (Der.encodeInteger value).length := by
        simp only [Der.encodeInteger, Der.encodeValue, List.length_append, List.length_cons]
        omega
      omega
    have read := readValue_encode front (rest.flatMap Der.encodeInteger) 2 small
    have later := ih (front ++ Der.encodeInteger value) (by omega)
    rw [List.length_append, List.append_assoc] at later
    rw [List.flatMap_cons]
    have inside : front.length <
        (front ++ (Der.encodeInteger value ++ rest.flatMap Der.encodeInteger)).length := by
      simp [Der.encodeInteger, Der.encodeValue]
    rw [readIntegers, dif_pos inside]
    split
    · rename_i e failed
      cases read.symm.trans failed
    · rename_i encoded next found
      cases read.symm.trans found
      rw [Der.fromBytes_integerContents]
      have whole : Der.encodeValue 2 (Der.integerContents value) = Der.encodeInteger value := rfl
      rw [whole, later]

theorem readValue_sequence {values : List Nat}
    (bound : (values.flatMap Der.encodeInteger).length < 2 ^ 32) (extra : Bytes) :
    readValue (Der.encodeIntegers values ++ extra) 0 48 =
      .ok (values.flatMap Der.encodeInteger, (Der.encodeIntegers values).length) := by
  have read := readValue_encode [] extra 48 bound
  rw [List.nil_append, List.length_nil, Nat.zero_add] at read
  exact read

/-- A sequence of nine INTEGERs, the first a version, is a key. -/
theorem readRsaPrivateKey_encode {version : Nat} {key : List Nat} (known : version ≤ 1)
    (eight : key.length = 8)
    (bound : ((version :: key).flatMap Der.encodeInteger).length < 2 ^ 32) :
    readRsaPrivateKey (Der.encodeIntegers (version :: key)) = .ok key := by
  have outer := readValue_sequence bound []
  have inner := readIntegers_encode [] (version :: key) bound
  rw [List.append_nil] at outer
  rw [List.nil_append, List.length_nil] at inner
  have nine : (version :: key).length = 9 := by rw [List.length_cons, eight]
  have versions : version = 0 ∨ version = 1 := by omega
  unfold readRsaPrivateKey
  rw [outer]
  dsimp only
  rw [if_neg (not_not.mpr rfl), inner]
  dsimp only
  rw [if_neg]
  · rfl
  · rw [nine, List.head?_cons, Option.some_inj, Option.some_inj]
    exact fun wrong => wrong.elim (fun h => h rfl) (fun h => h versions)

/-- A key is read from output that is one value from end to end. -/
theorem readValue_of_readRsaPrivateKey {output : Bytes} {key : List Nat}
    (h : readRsaPrivateKey output = .ok key) :
    ∃ sequence, readValue output 0 48 = .ok (sequence, output.length) := by
  unfold readRsaPrivateKey at h
  split at h
  · cases h
  · rename_i sequence stop read
    split at h
    · cases h
    · rename_i whole
      rw [not_not.mp whole] at read
      exact ⟨sequence, read⟩

/-! ## Base64url numbers -/

theorem urlsafeB64encode_rstrip (bs : Bytes) :
    (urlsafeB64encode bs).rdropWhile (· = 61) = Base64.url bs := by
  have digits : ∀ b ∈ Base64.url bs, b ≠ 61 := by
    intro b hb
    rcases Base64.encode_alphabet 45 95 bs b hb with alnum | rfl | rfl
    · rintro rfl
      exact absurd alnum (by decide)
    · decide
    · decide
  unfold urlsafeB64encode
  generalize (4 - (Base64.url bs).length % 4) % 4 = n
  induction n with
  | zero =>
    rw [List.replicate_zero, List.append_nil, List.rdropWhile_eq_self_iff]
    intro nonempty
    simpa using digits _ (List.getLast_mem nonempty)
  | succ n ih =>
    rw [List.replicate_succ', ← List.append_assoc, List.rdropWhile_concat_pos _ _ _ (by simp)]
    exact ih

/-- The text of a number: the unpadded URL-safe base64 of its shortest encoding. -/
structure UintText (value : Nat) : Prop where
  text : ∃ bs, Shortest value bs ∧ base64urlUint value = ofAscii (Base64.url bs) ∧
    Base64.decode 45 95 (Base64.url bs) = some bs

theorem base64urlUint_text (value : Nat) :
    base64urlUint value = ofAscii (Base64.url (shortest value)) :=
  congrArg ofAscii (urlsafeB64encode_rstrip (shortest value))

theorem url_injective : Function.Injective Base64.url := by
  intro a b h
  have ha := Base64.decode_encode 45 95 Base64.readable_url a
  have hb := Base64.decode_encode 45 95 Base64.readable_url b
  rw [show Base64.encode 45 95 a = Base64.encode 45 95 b from h] at ha
  exact Option.some.inj (ha.symm.trans hb)

theorem base64urlUint_injective : Function.Injective base64urlUint := by
  intro a b h
  rw [base64urlUint_text, base64urlUint_text] at h
  rw [← fromBytes_shortest a, ← fromBytes_shortest b, url_injective (ofAscii_injective h)]

/-! ## The round trip -/

/-- What the parser makes of an encoded key, of its parts, and of more than it. -/
structure KeyRoundTrip (version : Nat) (key : List Nat) : Prop where
  whole : readRsaPrivateKey (Der.encodeIntegers (version :: key)) = .ok key
  part : ∀ front, front <+: Der.encodeIntegers (version :: key) →
    front ≠ Der.encodeIntegers (version :: key) → ∃ e, readRsaPrivateKey front = .error e
  extended : ∀ extra, extra ≠ [] →
    ∃ e, readRsaPrivateKey (Der.encodeIntegers (version :: key) ++ extra) = .error e

/-- A key comes back from its encoding, and from nothing that begins like it; a number comes
back from its text, which no other number has. -/
theorem rsa_round_trip (version : Nat) (key : List Nat) (known : version ≤ 1)
    (eight : key.length = 8)
    (bound : ((version :: key).flatMap Der.encodeInteger).length < 2 ^ 32) :
    KeyRoundTrip version key ∧ (∀ value, UintText value) ∧ Function.Injective base64urlUint := by
  refine ⟨⟨readRsaPrivateKey_encode known eight bound, ?_, ?_⟩, ?_, base64urlUint_injective⟩
  · rintro front ⟨rest, hrest⟩ proper
    cases read : readRsaPrivateKey front with
    | error e => exact ⟨e, rfl⟩
    | ok found =>
      obtain ⟨sequence, value⟩ := readValue_of_readRsaPrivateKey read
      have longer := readValue_append rest value
      have outer := readValue_sequence bound []
      rw [List.append_nil, ← hrest] at outer
      have same := congrArg Prod.snd (Except.ok.inj (longer.symm.trans outer))
      dsimp only at same
      rw [List.length_append] at same
      have none_ : rest = [] := List.eq_nil_of_length_eq_zero (by omega)
      rw [none_, List.append_nil] at hrest
      exact absurd hrest proper
  · intro extra nonempty
    cases read : readRsaPrivateKey (Der.encodeIntegers (version :: key) ++ extra) with
    | error e => exact ⟨e, rfl⟩
    | ok found =>
      obtain ⟨sequence, value⟩ := readValue_of_readRsaPrivateKey read
      have same := congrArg Prod.snd
        (Except.ok.inj (value.symm.trans (readValue_sequence bound extra)))
      dsimp only at same
      have positive := List.length_pos_of_ne_nil nonempty
      rw [List.length_append] at same
      omega
  · intro value
    exact ⟨shortest value, shortest_spec value, base64urlUint_text value,
      Base64.decode_encode 45 95 Base64.readable_url _⟩

/-- Contents of 127, 128 and 256 octets, values with the top bit set, and zero. -/
def edgeKey : List Nat :=
  [2 ^ 1015, 65537, 2 ^ 1016, 128, 255, 0, 2 ^ 2047, 2 ^ 2040]

theorem rsa_round_trip_edge : KeyRoundTrip 0 edgeKey ∧ (∀ value, UintText value) ∧
    Function.Injective base64urlUint :=
  rsa_round_trip 0 edgeKey (by decide) rfl (by decide +kernel)

end KonnectFapi.Guarantees

import KonnectFapi.Lib.ByteString

/-!
# Base64 without padding

Three bytes become four digits; a last group of one or two becomes two or three.
The two characters beyond letters and digits are parameters, which covers the
standard and the URL-safe alphabet. Decoding inverts encoding in either.
-/

namespace KonnectFapi.Lib.Base64

/-- The digit of a six-bit number. -/
def digit (plus slash : Byte) (n : Nat) : Byte :=
  if n < 26 then UInt8.ofNat (65 + n)
  else if n < 52 then UInt8.ofNat (71 + n)
  else if n < 62 then UInt8.ofNat (n - 4)
  else if n = 62 then plus else slash

def encode (plus slash : Byte) : Bytes → Bytes
  | a :: b :: c :: rest =>
    digit plus slash (a.toNat / 4) :: digit plus slash (a.toNat % 4 * 16 + b.toNat / 16) ::
      digit plus slash (b.toNat % 16 * 4 + c.toNat / 64) :: digit plus slash (c.toNat % 64) ::
      encode plus slash rest
  | [a, b] =>
    [digit plus slash (a.toNat / 4), digit plus slash (a.toNat % 4 * 16 + b.toNat / 16),
      digit plus slash (b.toNat % 16 * 4)]
  | [a] => [digit plus slash (a.toNat / 4), digit plus slash (a.toNat % 4 * 16)]
  | [] => []

def standard (bs : Bytes) : Bytes := encode 43 47 bs
def url (bs : Bytes) : Bytes := encode 45 95 bs

variable (plus slash : Byte)

theorem length_encode (bs : Bytes) : (encode plus slash bs).length = (4 * bs.length + 2) / 3 := by
  fun_induction encode plus slash bs with
  | case1 a b c rest ih =>
    simp only [List.length_cons, ih]
    omega
  | case2 | case3 | case4 => simp

theorem digit_mem (n : Nat) :
    isAlnum (digit plus slash n) = true ∨ digit plus slash n = plus ∨ digit plus slash n = slash := by
  unfold digit
  split
  · left
    have : ∀ n < 26, isAlnum (UInt8.ofNat (65 + n)) = true := by decide
    exact this n (by assumption)
  split
  · left
    have : ∀ n < 52, ¬ n < 26 → isAlnum (UInt8.ofNat (71 + n)) = true := by decide
    exact this n (by assumption) (by assumption)
  split
  · left
    have : ∀ n < 62, ¬ n < 52 → isAlnum (UInt8.ofNat (n - 4)) = true := by decide
    exact this n (by assumption) (by assumption)
  · right
    split
    · exact Or.inl rfl
    · exact Or.inr rfl

theorem encode_alphabet (bs : Bytes) :
    ∀ d ∈ encode plus slash bs, isAlnum d = true ∨ d = plus ∨ d = slash := by
  fun_induction encode plus slash bs with
  | case1 a b c rest ih =>
    simp only [List.forall_mem_cons, digit_mem, true_and]
    exact ih
  | case2 a b => simp only [List.forall_mem_cons, digit_mem, true_and]; simp
  | case3 a => simp only [List.forall_mem_cons, digit_mem, true_and]; simp
  | case4 => simp

/-- Exchanging the two extra characters turns the text of one alphabet into the other's. -/
theorem map_encode {plus slash plus' slash' : Byte} {f : Byte → Byte}
    (alnum : ∀ b, isAlnum b = true → f b = b) (hplus : f plus = plus') (hslash : f slash = slash')
    (bs : Bytes) : (encode plus slash bs).map f = encode plus' slash' bs := by
  have each : ∀ n, f (digit plus slash n) = digit plus' slash' n := by
    intro n
    by_cases small : n < 62
    · have same : digit plus slash n = digit plus' slash' n := by
        unfold digit
        simp only [small, if_true]
      have letter : isAlnum (digit plus' slash' n) = true := by
        have : ∀ n < 62, isAlnum (digit 0 0 n) = true := by decide
        have here := this n small
        unfold digit at here ⊢
        simpa only [small, if_true] using here
      rw [same, alnum _ letter]
    · have large : ¬ n < 26 ∧ ¬ n < 52 := by omega
      unfold digit
      simp only [large.1, large.2, small, if_false]
      split
      · exact hplus
      · exact hslash
  fun_induction encode plus slash bs with
  | case1 a b c rest ih => simp only [List.map_cons, each, ih, encode]
  | case2 | case3 => simp only [List.map_cons, List.map_nil, each, encode]
  | case4 => rfl

/-! ## Decoding -/

/-- The six-bit number a digit stands for. -/
def sextet (b : Byte) : Option Nat :=
  if isUpper b then some (b.toNat - 65)
  else if isLower b then some (b.toNat - 71)
  else if isDigit b then some (b.toNat + 4)
  else if b = plus then some 62
  else if b = slash then some 63
  else none

def decode : Bytes → Option Bytes
  | a :: b :: c :: d :: rest => do
    let a ← sextet plus slash a
    let b ← sextet plus slash b
    let c ← sextet plus slash c
    let d ← sextet plus slash d
    let after ← decode rest
    return UInt8.ofNat (a * 4 + b / 16) :: UInt8.ofNat (b % 16 * 16 + c / 4) ::
      UInt8.ofNat (c % 4 * 64 + d) :: after
  | [a, b, c] => do
    let a ← sextet plus slash a
    let b ← sextet plus slash b
    let c ← sextet plus slash c
    return [UInt8.ofNat (a * 4 + b / 16), UInt8.ofNat (b % 16 * 16 + c / 4)]
  | [a, b] => do
    let a ← sextet plus slash a
    let b ← sextet plus slash b
    return [UInt8.ofNat (a * 4 + b / 16)]
  | [_] => none
  | [] => some []

/-- An alphabet whose digits can be told apart. -/
def Readable : Prop := ∀ n < 64, sextet plus slash (digit plus slash n) = some n

instance : Decidable (Readable plus slash) :=
  inferInstanceAs (Decidable (∀ n < 64, sextet plus slash (digit plus slash n) = some n))

theorem readable_standard : Readable 43 47 := by decide
theorem readable_url : Readable 45 95 := by decide

theorem byte_ofNat_eq {b : Byte} {n : Nat} (h : n = b.toNat) : UInt8.ofNat n = b := by
  rw [h, UInt8.ofNat_toNat]

theorem decode_encode (alphabet : Readable plus slash) (bs : Bytes) :
    decode plus slash (encode plus slash bs) = some bs := by
  fun_induction encode plus slash bs with
  | case1 a b c rest ih =>
    have ha := a.toNat_lt
    have hb := b.toNat_lt
    have hc := c.toNat_lt
    rw [decode, alphabet _ (by omega), alphabet _ (by omega), alphabet _ (by omega),
      alphabet _ (by omega), ih]
    simp only [Option.bind_eq_bind, Option.bind_some, Option.pure_def]
    rw [byte_ofNat_eq (b := a) (by omega), byte_ofNat_eq (b := b) (by omega),
      byte_ofNat_eq (b := c) (by omega)]
  | case2 a b =>
    have ha := a.toNat_lt
    have hb := b.toNat_lt
    rw [decode, alphabet _ (by omega), alphabet _ (by omega), alphabet _ (by omega)]
    simp only [Option.bind_eq_bind, Option.bind_some, Option.pure_def]
    rw [byte_ofNat_eq (b := a) (by omega), byte_ofNat_eq (b := b) (by omega)]
  | case3 a =>
    have ha := a.toNat_lt
    rw [decode, alphabet _ (by omega), alphabet _ (by omega)]
    simp only [Option.bind_eq_bind, Option.bind_some, Option.pure_def]
    rw [byte_ofNat_eq (b := a) (by omega)]
  | case4 => rfl

end KonnectFapi.Lib.Base64

import KonnectFapi.Lib.BigEndian

/-!
# Distinguished encoding

Tag, definite length in its shortest form, contents; non-negative INTEGERs with as few
contents octets as leave the sign bit clear.
-/

namespace KonnectFapi.Lib.Der

/-- Short form below 128, else the number of octets and the octets. -/
def encodeLength (n : Nat) : Bytes :=
  if n < 128 then [UInt8.ofNat n] else UInt8.ofNat (128 + byteLength n) :: shortest n

def encodeValue (tag : Byte) (contents : Bytes) : Bytes :=
  tag :: encodeLength contents.length ++ contents

def integerContents (value : Nat) : Bytes := toBytes (bitLength value / 8 + 1) value

def encodeInteger (value : Nat) : Bytes := encodeValue 2 (integerContents value)

/-- A SEQUENCE of INTEGERs. -/
def encodeIntegers (values : List Nat) : Bytes :=
  encodeValue 48 (values.flatMap encodeInteger)

theorem integerContents_fits (value : Nat) : value < 128 * 256 ^ (bitLength value / 8) := by
  have enough : bitLength value ≤ 8 * (bitLength value / 8) + 7 := by omega
  calc value < 2 ^ bitLength value := Nat.lt_size_self value
    _ ≤ 2 ^ (8 * (bitLength value / 8) + 7) := Nat.pow_le_pow_right (by omega) enough
    _ = 128 * 256 ^ (bitLength value / 8) := by rw [pow_add, pow_mul]; ring

theorem fromBytes_integerContents (value : Nat) : fromBytes (integerContents value) = value := by
  apply fromBytes_toBytes
  have fits := integerContents_fits value
  rw [pow_succ]
  omega

/-- What makes contents those of a non-negative INTEGER: the sign bit is clear, and the first
octet could not be left out. -/
structure IntegerContents (value : Nat) (contents : Bytes) : Prop where
  value : fromBytes contents = value
  sign : ∃ first rest, contents = first :: rest ∧ first.toNat < 128 ∧
    (first = 0 → rest = [] ∨ ∃ second more, rest = second :: more ∧ 128 ≤ second.toNat)

theorem integerContents_spec (value : Nat) : IntegerContents value (integerContents value) := by
  refine ⟨fromBytes_integerContents value, ?_⟩
  have length : (integerContents value).length = bitLength value / 8 + 1 := length_toBytes ..
  obtain ⟨first, rest, hc⟩ := List.exists_cons_of_length_eq_add_one length
  have restLength : rest.length = bitLength value / 8 := by
    rw [hc, List.length_cons] at length
    omega
  have whole := fromBytes_integerContents value
  rw [hc, fromBytes_cons, restLength] at whole
  have fits := integerContents_fits value
  refine ⟨first, rest, hc, ?_, ?_⟩
  · by_contra large
    have : 128 * 256 ^ (bitLength value / 8) ≤ first.toNat * 256 ^ (bitLength value / 8) :=
      Nat.mul_le_mul_right _ (by omega)
    omega
  · rintro rfl
    have zero : (0 : Byte).toNat = 0 := rfl
    rw [zero, Nat.zero_mul, Nat.zero_add] at whole
    rcases rest with _ | ⟨second, more⟩
    · exact Or.inl rfl
    · refine Or.inr ⟨second, more, rfl, ?_⟩
      by_contra small
      rw [List.length_cons] at restLength
      have bits : 8 * (more.length + 1) ≤ bitLength value := by omega
      have positive : 0 < bitLength value := by omega
      have large : 2 ^ (bitLength value - 1) ≤ value :=
        Nat.lt_size.mp (show bitLength value - 1 < bitLength value by omega)
      have power : 128 * 256 ^ more.length ≤ 2 ^ (bitLength value - 1) := by
        calc 128 * 256 ^ more.length = 2 ^ (8 * more.length + 7) := by rw [pow_add, pow_mul]; ring
          _ ≤ 2 ^ (bitLength value - 1) := Nat.pow_le_pow_right (by omega) (by omega)
      have tail := fromBytes_lt more
      rw [fromBytes_cons] at whole
      have head : second.toNat * 256 ^ more.length ≤ 127 * 256 ^ more.length :=
        Nat.mul_le_mul_right _ (by omega)
      omega

/-- The octets of a length below `2 ^ 32` are one to four. -/
theorem byteLength_bounds {n : Nat} (h : n < 2 ^ 32) : 1 ≤ byteLength n ∧ byteLength n ≤ 4 := by
  have bits : bitLength n ≤ 32 := Nat.size_le.mpr h
  unfold byteLength
  omega

end KonnectFapi.Lib.Der

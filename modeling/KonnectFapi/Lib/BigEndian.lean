import KonnectFapi.Lib.ByteString
import Mathlib.Data.List.Induction
import Mathlib.Data.Nat.Size
import Mathlib.Tactic.Ring

/-!
# Big-endian numbers

Unsigned numbers as byte strings, most significant byte first. A number has one
encoding of each length that holds it, and one shortest.
-/

namespace KonnectFapi.Lib

/-- `int.from_bytes(bs, "big")`. -/
def fromBytes (bs : Bytes) : Nat := bs.foldl (fun n b => 256 * n + b.toNat) 0

/-- `value.to_bytes(size, "big")`, for a value that fits. -/
def toBytes : Nat → Nat → Bytes
  | 0, _ => []
  | size + 1, value => toBytes size (value / 256) ++ [UInt8.ofNat (value % 256)]

/-- `value.bit_length()`. -/
def bitLength (value : Nat) : Nat := value.size

theorem fromBytes_append_singleton (bs : Bytes) (b : Byte) :
    fromBytes (bs ++ [b]) = 256 * fromBytes bs + b.toNat := by
  rw [fromBytes, List.foldl_append]
  rfl

@[simp] theorem length_toBytes (size value : Nat) : (toBytes size value).length = size := by
  induction size generalizing value with
  | zero => rfl
  | succ size ih => rw [toBytes, List.length_append, ih, List.length_singleton]

theorem fromBytes_toBytes {size value : Nat} (fits : value < 256 ^ size) :
    fromBytes (toBytes size value) = value := by
  induction size generalizing value with
  | zero =>
    rw [pow_zero, Nat.lt_one_iff] at fits
    rw [fits]
    rfl
  | succ size ih =>
    have smaller : value / 256 < 256 ^ size := by
      rw [Nat.div_lt_iff_lt_mul (by omega)]
      rwa [pow_succ] at fits
    have last : (UInt8.ofNat (value % 256)).toNat = value % 256 := by
      rw [UInt8.toNat_ofNat']
      omega
    rw [toBytes, fromBytes_append_singleton, ih smaller, last]
    omega

theorem toBytes_fromBytes (bs : Bytes) : toBytes bs.length (fromBytes bs) = bs := by
  induction bs using List.reverseRecOn with
  | nil => rfl
  | append_singleton bs b ih =>
    have small := b.toNat_lt
    have high : (256 * fromBytes bs + b.toNat) / 256 = fromBytes bs := by omega
    have low : (256 * fromBytes bs + b.toNat) % 256 = b.toNat := by omega
    rw [fromBytes_append_singleton, List.length_append, List.length_singleton, toBytes, high, low, ih,
      UInt8.ofNat_toNat]

theorem fromBytes_lt (bs : Bytes) : fromBytes bs < 256 ^ bs.length := by
  induction bs using List.reverseRecOn with
  | nil => decide
  | append_singleton bs b ih =>
    have small := b.toNat_lt
    rw [fromBytes_append_singleton, List.length_append, List.length_singleton, pow_succ]
    omega

/-- Of one length, a number has one encoding. -/
theorem fromBytes_inj {a b : Bytes} (length : a.length = b.length)
    (h : fromBytes a = fromBytes b) : a = b := by
  rw [← toBytes_fromBytes a, ← toBytes_fromBytes b, length, h]

theorem fromBytes_cons (b : Byte) (bs : Bytes) :
    fromBytes (b :: bs) = b.toNat * 256 ^ bs.length + fromBytes bs := by
  induction bs using List.reverseRecOn with
  | nil => simp [fromBytes]
  | append_singleton bs c ih =>
    rw [← List.cons_append, fromBytes_append_singleton, ih, fromBytes_append_singleton,
      List.length_append, List.length_singleton, pow_succ]
    ring

/-! ## The shortest encoding -/

/-- No leading zero byte, except that zero is one zero byte. -/
structure Shortest (value : Nat) (bs : Bytes) : Prop where
  value : fromBytes bs = value
  head : bs = [0] ∨ ∃ b rest, bs = b :: rest ∧ b ≠ 0

/-- `max(1, (value.bit_length() + 7) // 8)`. -/
def byteLength (value : Nat) : Nat := max 1 ((bitLength value + 7) / 8)

def shortest (value : Nat) : Bytes := toBytes (byteLength value) value

theorem lt_pow_byteLength (value : Nat) : value < 256 ^ byteLength value := by
  have bits : value < 2 ^ bitLength value := Nat.lt_size_self value
  have enough : bitLength value ≤ 8 * byteLength value := by
    unfold byteLength
    omega
  calc value < 2 ^ bitLength value := bits
    _ ≤ 2 ^ (8 * byteLength value) := Nat.pow_le_pow_right (by omega) enough
    _ = 256 ^ byteLength value := by rw [pow_mul]; rfl

theorem fromBytes_shortest (value : Nat) : fromBytes (shortest value) = value :=
  fromBytes_toBytes (lt_pow_byteLength value)

theorem shortest_ne_nil (value : Nat) : shortest value ≠ [] := by
  apply List.ne_nil_of_length_pos
  rw [shortest, length_toBytes, byteLength]
  omega

/-- One byte fewer does not hold the number. -/
theorem pow_le_of_pos {value : Nat} (h : 0 < value) : 256 ^ (byteLength value - 1) ≤ value := by
  have bits : 2 ^ (bitLength value - 1) ≤ value := by
    have positive : 0 < bitLength value := Nat.size_pos.mpr h
    exact Nat.lt_size.mp (show bitLength value - 1 < bitLength value by omega)
  have few : 8 * (byteLength value - 1) ≤ bitLength value - 1 := by
    unfold byteLength
    omega
  calc 256 ^ (byteLength value - 1) = 2 ^ (8 * (byteLength value - 1)) := by rw [pow_mul]; rfl
    _ ≤ 2 ^ (bitLength value - 1) := Nat.pow_le_pow_right (by omega) few
    _ ≤ value := bits

theorem shortest_spec (value : Nat) : Shortest value (shortest value) := by
  refine ⟨fromBytes_shortest value, ?_⟩
  rcases Nat.eq_zero_or_pos value with rfl | positive
  · exact Or.inl (by decide)
  · right
    obtain ⟨b, rest, hbs⟩ := List.exists_cons_of_ne_nil (shortest_ne_nil value)
    refine ⟨b, rest, hbs, ?_⟩
    rintro rfl
    have length : rest.length = byteLength value - 1 := by
      have := congrArg List.length hbs
      rw [shortest, length_toBytes, List.length_cons] at this
      omega
    have small := fromBytes_lt rest
    have same := fromBytes_shortest value
    rw [hbs, fromBytes_cons] at same
    have large := pow_le_of_pos positive
    rw [length] at small
    have zero : (0 : Byte).toNat = 0 := rfl
    rw [zero] at same
    omega

end KonnectFapi.Lib

import KonnectFapi.Lib.BigEndian
import KonnectFapi.Lib.Json
import Mathlib.Data.List.DropRight

/-!
# UUIDs

`uuid.UUID` on text and `str` on a UUID: 32 hexadecimal digits, where an URN
prefix, braces and hyphens may stand.
-/

namespace KonnectFapi.Lib

/-- `t.replace(pattern, "")`, `skip` characters being replaced already. -/
def removeFrom (pattern : Text) : Nat → Text → Text
  | _, [] => []
  | skip + 1, _ :: rest => removeFrom pattern skip rest
  | 0, c :: rest =>
    if pattern.isPrefixOf (c :: rest) then removeFrom pattern (pattern.length - 1) rest
    else c :: removeFrom pattern 0 rest

def isBrace (c : CodePoint) : Bool := c.val == 123 || c.val == 125

/-- `hex.replace('urn:', '').replace('uuid:', '').strip('{}').replace('-', '')` -/
def uuidDigits (t : Text) : Text :=
  let plain := removeFrom (text "uuid:") 0 (removeFrom (text "urn:") 0 t)
  ((plain.dropWhile isBrace).rdropWhile isBrace).filter (·.val != 45)

/-- `UUID(t).int`. The spellings of a number that `int(hex, 16)` takes besides
digits are left out. -/
def uuid (t : Text) : Option Nat :=
  let digits := uuidDigits t
  if digits.length = 32 ∧ digits.all Json.isHexPoint then
    let value := digits.foldl (fun n d => 16 * n + Json.hexPoint d) 0
    if value < 2 ^ 128 then some value else none
  else none

/-- `str(UUID)` -/
def uuidText (value : Nat) : Text :=
  let digits := ofAscii (hex (toBytes 16 value))
  digits.take 8 ++ text "-" ++ (digits.drop 8).take 4 ++ text "-" ++ (digits.drop 12).take 4 ++
    text "-" ++ (digits.drop 16).take 4 ++ text "-" ++ digits.drop 20

theorem uuid_lt {t : Text} {value : Nat} (h : uuid t = some value) : value < 2 ^ 128 := by
  unfold uuid at h
  dsimp only at h
  split at h
  · split at h
    · cases h
      assumption
    · cases h
  · cases h

/-- UUIDs are told apart by their texts. -/
theorem uuidText_injective {a b : Nat} (ha : a < 2 ^ 128) (hb : b < 2 ^ 128)
    (h : uuidText a = uuidText b) : a = b := by
  have length : ∀ n, (ofAscii (hex (toBytes 16 n))).length = 32 := by simp
  have whole : ∀ d : Text, d.length = 32 → d = d.take 8 ++ ((d.drop 8).take 4 ++
      ((d.drop 12).take 4 ++ ((d.drop 16).take 4 ++ d.drop 20))) := by
    intro d hd
    have four : ∀ n, d.drop n = (d.drop n).take 4 ++ d.drop (n + 4) := fun n => by
      rw [← List.drop_drop, List.take_append_drop]
    conv_lhs => rw [← List.take_append_drop 8 d, four 8, four 12, four 16]
  have digits : ofAscii (hex (toBytes 16 a)) = ofAscii (hex (toBytes 16 b)) := by
    have la := length a
    have lb := length b
    unfold uuidText at h
    dsimp only at h
    generalize ofAscii (hex (toBytes 16 a)) = x at h la ⊢
    generalize ofAscii (hex (toBytes 16 b)) = y at h lb ⊢
    simp only [List.append_assoc] at h
    obtain ⟨h1, h⟩ := List.append_inj h (by simp [la, lb])
    obtain ⟨h2, h⟩ := List.append_inj (List.append_cancel_left h) (by simp [la, lb])
    obtain ⟨h3, h⟩ := List.append_inj (List.append_cancel_left h) (by simp [la, lb])
    obtain ⟨h4, h⟩ := List.append_inj (List.append_cancel_left h) (by simp [la, lb])
    have h5 := List.append_cancel_left h
    rw [whole x la, whole y lb, h1, h2, h3, h4, h5]
  have bytes := hex_injective (ofAscii_injective digits)
  have back : ∀ n < 2 ^ 128, fromBytes (toBytes 16 n) = n := fun n hn =>
    fromBytes_toBytes (by simpa using hn)
  rw [← back a ha, bytes, back b hb]

end KonnectFapi.Lib

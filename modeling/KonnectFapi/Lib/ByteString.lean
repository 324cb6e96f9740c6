import Mathlib.Data.List.Basic

/-!
# Byte strings

Strings of the scripting languages are byte sequences: classification of ASCII
bytes, case folding, hexadecimal text and decimal numerals. Nothing here knows
what the bytes are used for.
-/

namespace KonnectFapi.Lib

abbrev Byte := UInt8
abbrev Bytes := List Byte

/-- The bytes of an ASCII literal. -/
def ascii (s : String) : Bytes := s.toList.map fun c => UInt8.ofNat c.toNat

theorem ascii_append (s t : String) : ascii (s ++ t) = ascii s ++ ascii t := by
  simp [ascii]

/-- A property of every byte is checked on the 256 values. -/
theorem byte_forall {P : Byte → Prop} (h : ∀ n < 256, P (UInt8.ofNat n)) (b : Byte) : P b := by
  have hb := h b.toNat b.toNat_lt
  rwa [UInt8.ofNat_toNat] at hb

def isDigit (b : Byte) : Bool := 48 ≤ b.toNat && b.toNat ≤ 57
def isUpper (b : Byte) : Bool := 65 ≤ b.toNat && b.toNat ≤ 90
def isLower (b : Byte) : Bool := 97 ≤ b.toNat && b.toNat ≤ 122
def isAlpha (b : Byte) : Bool := isUpper b || isLower b
def isAlnum (b : Byte) : Bool := isAlpha b || isDigit b

/-- `%s`: space and the five ASCII layout controls. -/
def isSpace (b : Byte) : Bool := b.toNat == 32 || (9 ≤ b.toNat && b.toNat ≤ 13)

/-- `%x`. -/
def isHexDigit (b : Byte) : Bool :=
  isDigit b || (65 ≤ b.toNat && b.toNat ≤ 70) || (97 ≤ b.toNat && b.toNat ≤ 102)

def lowerByte (b : Byte) : Byte := if isUpper b then UInt8.ofNat (b.toNat + 32) else b
def upperByte (b : Byte) : Byte := if isLower b then UInt8.ofNat (b.toNat - 32) else b

/-- ASCII case folding, as the C locale performs it. -/
def lower (bs : Bytes) : Bytes := bs.map lowerByte
def upper (bs : Bytes) : Bytes := bs.map upperByte

theorem lower_lower (bs : Bytes) : lower (lower bs) = lower bs := by
  have each : ∀ b, lowerByte (lowerByte b) = lowerByte b := byte_forall (by decide +kernel)
  simp [lower, each]

/-- Equality up to ASCII letter case. -/
def sameName (a b : Bytes) : Bool := lower a == lower b

@[simp] theorem sameName_self (a : Bytes) : sameName a a = true := by simp [sameName]

theorem sameName_comm (a b : Bytes) : sameName a b = sameName b a := BEq.comm

/-! ## Hexadecimal text -/

def hexDigit (n : Nat) : Byte := UInt8.ofNat (if n < 10 then 48 + n else 87 + n)
def hexDigitUpper (n : Nat) : Byte := UInt8.ofNat (if n < 10 then 48 + n else 55 + n)

/-- The value of a digit of either case; other bytes read as zero, so callers
test `isHexDigit` first. -/
def hexValue (b : Byte) : Nat :=
  if isDigit b then b.toNat - 48
  else if 97 ≤ b.toNat && b.toNat ≤ 102 then b.toNat - 87
  else if 65 ≤ b.toNat && b.toNat ≤ 70 then b.toNat - 55
  else 0

theorem hexDigit_spec (n : Nat) (h : n < 16) :
    isHexDigit (hexDigit n) = true ∧ hexValue (hexDigit n) = n := by
  revert n
  decide

theorem hexDigitUpper_spec (n : Nat) (h : n < 16) :
    isHexDigit (hexDigitUpper n) = true ∧ hexValue (hexDigitUpper n) = n := by
  revert n
  decide

/-- Lower-case hexadecimal text, two digits a byte. -/
def hex (bs : Bytes) : Bytes :=
  bs.flatMap fun b => [hexDigit (b.toNat / 16), hexDigit (b.toNat % 16)]

@[simp] theorem hex_length (bs : Bytes) : (hex bs).length = 2 * bs.length := by
  induction bs with
  | nil => rfl
  | cons b rest ih =>
    simp only [hex, List.flatMap_cons, List.length_append, List.length_cons, List.length_nil] at ih ⊢
    omega

/-- Two byte strings with the same text are the same. -/
theorem hex_injective : Function.Injective hex := by
  intro xs
  induction xs with
  | nil =>
    intro ys h
    cases ys with
    | nil => rfl
    | cons y ys => simp [hex] at h
  | cons x xs ih =>
    intro ys h
    cases ys with
    | nil => simp [hex] at h
    | cons y ys =>
      simp only [hex, List.flatMap_cons, List.cons_append, List.nil_append, List.cons.injEq] at h
      obtain ⟨high, low, rest⟩ := h
      have hx := x.toNat_lt
      have hy := y.toNat_lt
      have highValue := congrArg hexValue high
      have lowValue := congrArg hexValue low
      rw [(hexDigit_spec _ (by omega)).2, (hexDigit_spec _ (by omega)).2] at highValue lowValue
      have same : x = y := UInt8.toNat_inj.mp (by omega)
      rw [same, ih rest]

/-- The text never holds the byte a joiner separates fields with. -/
theorem zero_not_mem_hex (bs : Bytes) : (0 : Byte) ∉ hex bs := by
  intro h
  simp only [hex, List.mem_flatMap, List.mem_cons, List.not_mem_nil, or_false] at h
  obtain ⟨b, -, h⟩ := h
  have digit : ∀ n < 16, hexDigit n ≠ 0 := by decide
  have hb := b.toNat_lt
  rcases h with h | h
  · exact digit _ (by omega) h.symm
  · exact digit _ (by omega) h.symm

/-! ## Numerals -/

/-- Decimal numeral without leading zeros. -/
def decimal (n : Nat) : Bytes := (Nat.toDigits 10 n).map fun c => UInt8.ofNat c.toNat

/-- The number a run of decimal digits denotes, leading zeros allowed. -/
def numeral (digits : Bytes) : Nat := digits.foldl (fun n d => 10 * n + (d.toNat - 48)) 0

theorem decimal_base {n : Nat} (h : n < 10) : decimal n = [UInt8.ofNat (48 + n)] := by
  unfold decimal
  rw [Nat.toDigits_of_lt_base h]
  revert n
  decide

theorem decimal_step {n : Nat} (h : 10 ≤ n) :
    decimal n = decimal (n / 10) ++ [UInt8.ofNat (48 + n % 10)] := by
  have last := decimal_base (Nat.mod_lt n (show 0 < 10 by decide))
  unfold decimal at last ⊢
  rw [Nat.toDigits_of_base_le (by decide) h, List.map_append]
  rw [Nat.toDigits_of_lt_base (Nat.mod_lt n (by decide))] at last
  rw [← last]

/-! ## Runs -/

/-- The text goes on with a byte of the class. -/
def startsWith (p : Byte → Bool) (text : Bytes) : Bool := text.head?.any p

/-- A run of a class that cannot be extended is what a greedy match takes. -/
theorem takeWhile_run {p : Byte → Bool} {run rest : Bytes} (inside : ∀ b ∈ run, p b = true)
    (stop : startsWith p rest = false) : (run ++ rest).takeWhile p = run := by
  rw [List.takeWhile_append_of_pos inside]
  cases rest with
  | nil => simp
  | cons b after =>
    have : p b = false := by simpa [startsWith] using stop
    simp [this]

/-! ## Joining -/

/-- `table.concat(parts, sep)`. -/
def join (sep : Bytes) (parts : List Bytes) : Bytes := sep.intercalate parts

end KonnectFapi.Lib

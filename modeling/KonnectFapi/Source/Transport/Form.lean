import KonnectFapi.Source.Transport.Host

/-!
# Form bodies

Source: kong/plugins/fapi-as-mtls-transport/handler.lua:902-966, 1024-1042.
-/

namespace KonnectFapi.Source.Transport
open Lib Lib.Lua

/-- Decoded form: names in order of appearance. -/
abbrev Fields := List (Bytes × Bytes)

/-- `fields[name]`. -/
def Fields.field (fields : Fields) (name : String) : Option Bytes := fields.lookup (ascii name)

def decodeComponent : Bytes → Option Bytes
  | [] => some []
  | byte :: rest =>
    if byte = 43 then (decodeComponent rest).map (32 :: ·)
    else if byte = 37 then
      match rest with
      | high :: low :: rest =>
        if isHexDigit high ∧ isHexDigit low then
          (decodeComponent rest).map (UInt8.ofNat (16 * hexValue high + hexValue low) :: ·)
        else none
      | _ => none
    else (decodeComponent rest).map (byte :: ·)

/-- `pair:find("=", 1, true)` and the two `sub` calls around it. -/
def splitPair (pair : Bytes) : Option (Bytes × Bytes) :=
  match pair.dropWhile (· != 61) with
  | [] => none
  | _ :: value => some (pair.takeWhile (· != 61), value)

/-- `[%z\1-\31\127]` -/
def isNameControl (b : Byte) : Bool := b.toNat ≤ 31 || b.toNat == 127

/-- `[%z\1-\8\11\12\14-\31\127]` -/
def isValueControl (b : Byte) : Bool :=
  b.toNat ≤ 8 || b.toNat == 11 || b.toNat == 12 || (14 ≤ b.toNat && b.toNat ≤ 31) ||
    b.toNat == 127

/-- The loop of `parse_form` over the pieces `gmatch("(.-)&")` yields. -/
def parsePairs : List Bytes → Nat → Fields → Option Fields
  | [], _, fields => some fields
  | pair :: rest, count, fields =>
    if maxFormFields < count + 1 then none
    else
      match splitPair pair with
      | none => none
      | some (rawName, rawValue) =>
        match decodeComponent rawName, decodeComponent rawValue with
        | some name, some value =>
          if name = [] ∨ maxFormNameBytes < name.length ∨ maxFormValueBytes < value.length ∨
              (fields.lookup name).isSome ∨ name.any isNameControl ∨ value.any isValueControl then
            none
          else parsePairs rest (count + 1) (fields ++ [(name, value)])
        | _, _ => none

def parseForm (body : Bytes) : Option Fields :=
  if body.length = 0 ∨ maxFormBytes < body.length then none
  else parsePairs (body.splitOn 38) 0 []

/-- `#name .. ":" .. name .. #value .. ":" .. value` -/
def canonicalPair (name value : Bytes) : Bytes :=
  decimal name.length ++ ascii ":" ++ name ++ decimal value.length ++ ascii ":" ++ value

/-- The string `form_digest` hashes. -/
def canonicalForm (fields : Fields) (excluded : List Bytes) : Bytes :=
  let names := (fields.map Prod.fst).filter fun name => !excluded.contains name
  let sorted := names.insertionSort (· ≤ ·)
  join [0] (sorted.map fun name => canonicalPair name ((fields.lookup name).getD []))

def formDigest (host : Host) (fields : Fields) (excluded : List Bytes) : Option Bytes :=
  sha256 host (canonicalForm fields excluded)

/-- `[^%w%-%._~]` is what `urlencode` escapes. -/
def isUnreserved (b : Byte) : Bool := isAlnum b || b == 45 || b == 46 || b == 95 || b == 126

def urlencode (value : Bytes) : Bytes :=
  value.flatMap fun b =>
    if isUnreserved b then [b]
    else [37, hexDigitUpper (b.toNat / 16), hexDigitUpper (b.toNat % 16)]

/-- Whether an entry of a header table is named `name`, in any letter case. -/
def isNamed (name : Bytes) (entry : Key × Value) : Bool :=
  match entry.1 with
  | .str key => sameName key name
  | _ => false

def formMediaType : Bytes := ascii "application/x-www-form-urlencoded"

/-- `[%w%-_=%s]` -/
def isParameterByte (b : Byte) : Bool := isAlnum b || b == 45 || b == 95 || b == 61 || isSpace b

/-- `value:lower():match("^%s*application/x%-www%-form%-urlencoded%s*;?%s*[%w%-_=%s]*$")`.
The last class contains the blanks the earlier items skip, so the only choice is
whether a `;` stands after them. -/
def matchesFormType (value : Bytes) : Bool :=
  let text := (lower value).dropWhile isSpace
  formMediaType.isPrefixOf text &&
    (match (text.drop formMediaType.length).dropWhile isSpace with
      | [] => true
      | byte :: rest => if byte = 59 then rest.all isParameterByte
          else (byte :: rest).all isParameterByte)

/-- `pairs` stops at the first header of that name. -/
def contentTypeIsForm (headers : Table) : Bool :=
  match headers.find? (isNamed (ascii "content-type")) with
  | some (_, .str value) => matchesFormType value
  | _ => false

end KonnectFapi.Source.Transport

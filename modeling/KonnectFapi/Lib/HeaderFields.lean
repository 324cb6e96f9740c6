import KonnectFapi.Lib.Text
import Mathlib.Data.List.DropRight

/-!
# Header fields and percent coding

A message's header fields in arrival order, looked up by name without regard to
case, and the byte-string operations that values of such fields are taken apart with.
-/

namespace KonnectFapi.Lib

abbrev HeaderFields := List (Text × Text)

/-- Every value of a name, in order. -/
def getAll (headers : HeaderFields) (name : Text) : List Text :=
  (headers.filter fun field => lowerText field.1 == lowerText name).map Prod.snd

/-- The first value of a name. -/
def getFirst (headers : HeaderFields) (name : Text) : Option Text := (getAll headers name).head?

/-- The text a server makes of a field value's bytes: ISO-8859-1, one character a byte. -/
def latin1 (bs : Bytes) : Text := ofAscii bs

/-- Non-overlapping occurrences; `skip` bytes of the last one are still to pass. -/
def countFrom (sub : Bytes) : Nat → Bytes → Nat
  | _, [] => 0
  | skip + 1, _ :: rest => countFrom sub skip rest
  | 0, b :: rest =>
    if sub.isPrefixOf (b :: rest) then countFrom sub (sub.length - 1) rest + 1
    else countFrom sub 0 rest

/-- `bytes.count(sub)`. -/
def count (sub bs : Bytes) : Nat := countFrom sub 0 bs

/-- `bytes.rstrip()`. -/
def rstrip (bs : Bytes) : Bytes := bs.rdropWhile isSpace

/-- `%(?![0-9A-Fa-f]{2})` is found. -/
def badEscape : Bytes → Bool
  | [] => false
  | b :: rest =>
    (b == 37 && !(2 ≤ rest.length && (rest.take 2).all isHexDigit)) || badEscape rest

/-- `unquote_to_bytes`: an escape that is none stays as it is. -/
def unquoteToBytes : Bytes → Bytes
  | 37 :: high :: low :: rest =>
    if isHexDigit high && isHexDigit low then
      UInt8.ofNat (16 * hexValue high + hexValue low) :: unquoteToBytes rest
    else 37 :: unquoteToBytes (high :: low :: rest)
  | b :: rest => b :: unquoteToBytes rest
  | [] => []

end KonnectFapi.Lib

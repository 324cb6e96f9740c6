import KonnectFapi.Lib.Text
import Mathlib.Data.List.Sort

/-!
# JSON documents

Compact printing with every character outside printable ASCII escaped, and a strict
reader: object members in the order written, a hook deciding what a member list
becomes. Integers are unbounded; a number with a fraction or an exponent is kept as
its literal. Reading what was printed gives the document back where no text in it
holds a surrogate pair as two code points.
-/

namespace KonnectFapi.Lib

inductive Json where
  | null
  | bool (b : Bool)
  | int (n : Int)
  | float (literal : Text)
  | str (s : Text)
  | arr (items : List Json)
  | obj (members : List (Text × Json))

namespace Json

/-- `value.get(name)`, nothing on a value that is no object. -/
def get? : Json → Text → Option Json
  | .obj members, name => members.lookup name
  | _, _ => none

def isObj : Json → Bool
  | .obj _ => true
  | _ => false

def str? : Json → Option Text
  | .str s => some s
  | _ => none

/-- The number of an integer; `True` and `False` are not integers here. -/
def int? : Json → Option Int
  | .int n => some n
  | _ => none

def bool? : Json → Option Bool
  | .bool b => some b
  | _ => none

theorem str?_eq_some {v : Json} {s : Text} : v.str? = some s ↔ v = .str s := by
  cases v <;> simp [str?]

/-! ## Printing -/

/-- `\uXXXX` with lower-case digits. -/
def escapeUnit (n : Nat) : Bytes :=
  [92, 117, hexDigit (n / 4096), hexDigit (n / 256 % 16), hexDigit (n / 16 % 16), hexDigit (n % 16)]

/-- The letter of a two-character escape, other than the backslash itself. -/
def shortEscape (c : CodePoint) : Option Byte :=
  if c = 34 then some 34 else if c = 92 then some 92 else if c = 10 then some 110
  else if c = 13 then some 114 else if c = 9 then some 116 else if c = 12 then some 102
  else if c = 8 then some 98 else none

def printChar (c : CodePoint) : Bytes :=
  match shortEscape c with
  | some letter => [92, letter]
  | none =>
    if 32 ≤ c.val ∧ c.val ≤ 126 then [UInt8.ofNat c.val]
    else if c.val < 65536 then escapeUnit c.val
    else escapeUnit (55296 + (c.val - 65536) / 1024) ++ escapeUnit (56320 + (c.val - 65536) % 1024)

def printString (s : Text) : Bytes := [34] ++ s.flatMap printChar ++ [34]

def printInt (n : Int) : Bytes := (if n < 0 then [45] else []) ++ decimal n.natAbs

mutual
/-- `json.dumps(value, separators=(",", ":"))`. -/
def print : Json → Bytes
  | .null => ascii "null"
  | .bool b => ascii (if b then "true" else "false")
  | .int n => printInt n
  | .float literal => literal.map fun c => UInt8.ofNat c.val
  | .str s => printString s
  | .arr items => ascii "[" ++ join (ascii ",") (printItems items) ++ ascii "]"
  | .obj members => ascii "\x7b" ++ join (ascii ",") (printMembers members) ++ ascii "\x7d"

def printItems : List Json → List Bytes
  | [] => []
  | v :: rest => print v :: printItems rest

def printMembers : List (Text × Json) → List Bytes
  | [] => []
  | (name, v) :: rest => (printString name ++ ascii ":" ++ print v) :: printMembers rest
end

/-! ## Reading -/

def isBlank (c : CodePoint) : Bool := c.val == 32 || c.val == 9 || c.val == 10 || c.val == 13

def skipBlanks (t : Text) : Text := t.dropWhile isBlank

def isHexPoint (c : CodePoint) : Bool := c.val < 128 && isHexDigit (UInt8.ofNat c.val)

def hexPoint (c : CodePoint) : Nat := hexValue (UInt8.ofNat c.val)

/-- Four hexadecimal digits and what follows them. -/
def hexUnit : Text → Option (Nat × Text)
  | a :: b :: c :: d :: rest =>
    if isHexPoint a && isHexPoint b && isHexPoint c && isHexPoint d then
      some (hexPoint a * 4096 + hexPoint b * 256 + hexPoint c * 16 + hexPoint d, rest)
    else none
  | _ => none

/-- `\uXXXX` naming a low surrogate. -/
def lowUnit : Text → Option (Nat × Text)
  | slash :: u :: rest =>
    if slash = 92 ∧ u = 117 then
      match hexUnit rest with
      | some (unit, rest) => if isLowSurrogate unit then some (unit, rest) else none
      | none => none
    else none
  | _ => none

/-- What the letter of a two-character escape stands for. -/
def shortMeaning (c : CodePoint) : Option CodePoint :=
  if c = 34 then some 34 else if c = 92 then some 92 else if c = 47 then some 47
  else if c = 98 then some 8 else if c = 102 then some 12 else if c = 110 then some 10
  else if c = 114 then some 13 else if c = 116 then some 9 else none

/-- What stands after a backslash: the code point and the text behind it. -/
def escaped : Text → Option (CodePoint × Text)
  | [] => none
  | c :: rest =>
    if c = 117 then
      match hexUnit rest with
      | none => none
      | some (unit, rest) =>
        if isHighSurrogate unit then
          match lowUnit rest with
          | some (low, rest) =>
            some (codePoint (65536 + (unit - 55296) * 1024 + (low - 56320)), rest)
          | none => some (codePoint unit, rest)
        else some (codePoint unit, rest)
    else (shortMeaning c).map fun meaning => (meaning, rest)

/-- The text up to the closing quote. -/
def stringBody : Nat → Text → Option (Text × Text)
  | 0, _ => none
  | _ + 1, [] => none
  | fuel + 1, c :: rest =>
    if c = 34 then some ([], rest)
    else if c = 92 then
      match escaped rest with
      | none => none
      | some (meaning, rest) => (stringBody fuel rest).map fun (s, rest) => (meaning :: s, rest)
    else if c.val < 32 then none
    else (stringBody fuel rest).map fun (s, rest) => (c :: s, rest)

def isDigitPoint (c : CodePoint) : Bool := 48 ≤ c.val && c.val ≤ 57

def digitsValue (digits : Text) : Nat := digits.foldl (fun n d => 10 * n + (d.val - 48)) 0

/-- `\.[0-9]+`, when it is there. -/
def fraction (t : Text) : Text :=
  match t with
  | point :: rest =>
    if point = 46 ∧ rest.takeWhile isDigitPoint ≠ [] then point :: rest.takeWhile isDigitPoint else []
  | [] => []

/-- `[eE][-+]?[0-9]+`, when it is there. -/
def exponent (t : Text) : Text :=
  match t with
  | e :: rest =>
    let sign := rest.takeWhile (fun c => c.val == 43 || c.val == 45)
    let digits := (rest.drop sign.length).takeWhile isDigitPoint
    if (e = 69 ∨ e = 101) ∧ sign.length ≤ 1 ∧ digits ≠ [] then e :: sign ++ digits else []
  | [] => []

/-- `-?(0|[1-9][0-9]*)` with an optional fraction and exponent. -/
def number (t : Text) : Option (Json × Text) :=
  let sign : Text := t.take 1 |>.filter (·.val == 45)
  let body := t.drop sign.length
  let digits := if body.head? = some 48 then [48] else body.takeWhile isDigitPoint
  if digits = [] then none
  else
    let rest := body.drop digits.length
    let after := fraction rest
    let after := after ++ exponent (rest.drop after.length)
    if after = [] then
      let n : Int := digitsValue digits
      some (.int (if sign = [] then n else -n), rest)
    else some (.float (sign ++ digits ++ after), rest.drop after.length)

/-- The words a value may be, the three numeric ones included. -/
def constants : List (Text × Json) :=
  [(text "null", .null), (text "true", .bool true), (text "false", .bool false),
    (text "NaN", .float (text "NaN")), (text "Infinity", .float (text "Infinity")),
    (text "-Infinity", .float (text "-Infinity"))]

def atom (t : Text) : Option (Json × Text) :=
  match constants.find? fun entry => entry.1.isPrefixOf t with
  | some (word, v) => some (v, t.drop word.length)
  | none => number t

section
variable (hook : List (Text × Json) → Option Json)

mutual
def value : Nat → Text → Option (Json × Text)
  | 0, _ => none
  | _ + 1, [] => none
  | fuel + 1, c :: rest =>
    if c = 34 then (stringBody (rest.length + 1) rest).map fun (s, rest) => (.str s, rest)
    else if c = 123 then
      match skipBlanks rest with
      | [] => none
      | d :: more =>
        if d = 125 then (hook []).map (·, more)
        else (members fuel (d :: more)).bind fun (found, rest) => (hook found).map (·, rest)
    else if c = 91 then
      match skipBlanks rest with
      | [] => none
      | d :: more =>
        if d = 93 then some (.arr [], more)
        else (items fuel (d :: more)).map fun (found, rest) => (.arr found, rest)
    else atom (c :: rest)

/-- The elements of an array up to its bracket. -/
def items : Nat → Text → Option (List Json × Text)
  | 0, _ => none
  | fuel + 1, t =>
    match value fuel t with
    | none => none
    | some (v, rest) =>
      match skipBlanks rest with
      | [] => none
      | c :: rest =>
        if c = 93 then some ([v], rest)
        else if c = 44 then
          (items fuel (skipBlanks rest)).map fun (found, rest) => (v :: found, rest)
        else none

/-- The members of an object up to its brace. -/
def members : Nat → Text → Option (List (Text × Json) × Text)
  | 0, _ => none
  | _ + 1, [] => none
  | fuel + 1, quote :: rest =>
    if quote ≠ 34 then none
    else
      match stringBody (rest.length + 1) rest with
      | none => none
      | some (name, rest) =>
        match skipBlanks rest with
        | [] => none
        | colon :: rest =>
          if colon ≠ 58 then none
          else
            match value fuel (skipBlanks rest) with
            | none => none
            | some (v, rest) =>
              match skipBlanks rest with
              | [] => none
              | c :: rest =>
                if c = 125 then some ([(name, v)], rest)
                else if c = 44 then
                  (members fuel (skipBlanks rest)).map fun (found, rest) => ((name, v) :: found, rest)
                else none
end

/-- `json.loads(t, object_pairs_hook=hook)`. -/
def loads (t : Text) : Option Json :=
  match value hook (t.length + 1) (skipBlanks t) with
  | some (v, rest) => if skipBlanks rest = [] then some v else none
  | none => none

end

/-- The dictionary a member list builds: the last value of a name, at the first place. -/
def dict (found : List (Text × Json)) : List (Text × Json) :=
  found.foldl (fun d (name, v) =>
    if (d.lookup name).isSome then d.map fun (n, old) => (n, if n = name then v else old)
    else d ++ [(name, v)]) []

/-- A hook that refuses a repeated name. -/
def unique (found : List (Text × Json)) : Option Json :=
  if (found.map Prod.fst).Nodup then some (.obj found) else none

end Json

end KonnectFapi.Lib

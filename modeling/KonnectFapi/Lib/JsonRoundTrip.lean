import KonnectFapi.Lib.Json

/-!
# Reading back what was printed

The reader returns a printed document as it was, members in the order they were
printed, where the hook keeps every member list in it. Surrogates survive one by one;
only two of them that form a pair would be read as one code point.
-/

namespace KonnectFapi.Lib.Json

/-! ## Escapes -/

theorem hexPoint_digit {n : Nat} (h : n < 16) :
    isHexPoint (CodePoint.ofByte (hexDigit n)) = true ∧
      hexPoint (CodePoint.ofByte (hexDigit n)) = n := by
  revert n
  decide

theorem hexUnit_escape {n : Nat} (h : n < 65536) (tail : Text) :
    hexUnit (ofAscii [hexDigit (n / 4096), hexDigit (n / 256 % 16), hexDigit (n / 16 % 16),
      hexDigit (n % 16)] ++ tail) = some (n, tail) := by
  have d1 := hexPoint_digit (show n / 4096 < 16 by omega)
  have d2 := hexPoint_digit (show n / 256 % 16 < 16 by omega)
  have d3 := hexPoint_digit (show n / 16 % 16 < 16 by omega)
  have d4 := hexPoint_digit (show n % 16 < 16 by omega)
  have sum : n / 4096 * 4096 + n / 256 % 16 * 256 + n / 16 % 16 * 16 + n % 16 = n := by omega
  simp only [ofAscii, List.map_cons, List.map_nil, List.cons_append, List.nil_append, hexUnit, d1, d2,
    d3, d4, Bool.and_self, if_true, sum]

/-- What follows the backslash of a printed unit. -/
theorem escapeUnit_split (n : Nat) (tail : Text) :
    ofAscii (escapeUnit n) ++ tail = 92 :: 117 :: (ofAscii [hexDigit (n / 4096),
      hexDigit (n / 256 % 16), hexDigit (n / 16 % 16), hexDigit (n % 16)] ++ tail) := rfl

theorem lowUnit_escape {n : Nat} (h : n < 65536) (tail : Text) :
    lowUnit (ofAscii (escapeUnit n) ++ tail) =
      if isLowSurrogate n then some (n, tail) else none := by
  rw [escapeUnit_split]
  unfold lowUnit
  simp only [and_self, if_true, hexUnit_escape h]

theorem shortEscape_meaning {c : CodePoint} {letter : Byte} (h : shortEscape c = some letter) :
    CodePoint.ofByte letter ≠ 117 ∧ shortMeaning (CodePoint.ofByte letter) = some c := by
  unfold shortEscape at h
  repeat' split at h
  case isFalse => cases h
  all_goals
    rename_i is
    obtain rfl := Option.some.inj h
    rw [is]
    decide

/-- A character whose print starts with a backslash only when it is an escape. -/
theorem shortEscape_none {c : CodePoint} (h : shortEscape c = none) : c ≠ 34 ∧ c ≠ 92 := by
  unfold shortEscape at h
  constructor
  · intro is
    rw [if_pos is] at h
    cases h
  · intro is
    rw [if_neg (by rw [is]; decide), if_pos is] at h
    cases h

theorem escaped_unit {n : Nat} (h : n < 65536) {tail : Text}
    (apart : isHighSurrogate n = true → lowUnit tail = none) :
    escaped (117 :: (ofAscii [hexDigit (n / 4096), hexDigit (n / 256 % 16), hexDigit (n / 16 % 16),
      hexDigit (n % 16)] ++ tail)) = some (codePoint n, tail) := by
  unfold escaped
  simp only [if_true, hexUnit_escape h]
  split
  · rename_i high
    rw [apart high]
  · rfl

theorem escaped_pair {v : Nat} (h : v < 1048576) (tail : Text) :
    escaped (117 :: (ofAscii [hexDigit ((55296 + v / 1024) / 4096),
      hexDigit ((55296 + v / 1024) / 256 % 16), hexDigit ((55296 + v / 1024) / 16 % 16),
      hexDigit ((55296 + v / 1024) % 16)] ++
        (ofAscii (escapeUnit (56320 + v % 1024)) ++ tail))) =
      some (codePoint (65536 + v), tail) := by
  have high : isHighSurrogate (55296 + v / 1024) = true := by
    simp only [isHighSurrogate, Bool.and_eq_true, decide_eq_true_eq]
    omega
  have low : isLowSurrogate (56320 + v % 1024) = true := by
    simp only [isLowSurrogate, Bool.and_eq_true, decide_eq_true_eq]
    omega
  have sum : 65536 + (55296 + v / 1024 - 55296) * 1024 + (56320 + v % 1024 - 56320) = 65536 + v := by
    omega
  unfold escaped
  simp only [if_true, hexUnit_escape (show 55296 + v / 1024 < 65536 by omega), high,
    lowUnit_escape (show 56320 + v % 1024 < 65536 by omega), low, sum]

/-! ## Strings -/

theorem stringBody_char (c : CodePoint) (fuel : Nat) {tail : Text}
    (apart : isHighSurrogate c = true → lowUnit tail = none) :
    stringBody (fuel + 1) (ofAscii (printChar c) ++ tail) =
      (stringBody fuel tail).map fun (s, rest) => (c :: s, rest) := by
  have escape : ∀ {n : Nat} {more : Text},
      escaped (117 :: (ofAscii [hexDigit (n / 4096), hexDigit (n / 256 % 16), hexDigit (n / 16 % 16),
        hexDigit (n % 16)] ++ more)) = some (c, tail) →
      stringBody (fuel + 1) (ofAscii (escapeUnit n) ++ more) =
        (stringBody fuel tail).map fun (s, rest) => (c :: s, rest) := by
    intro n more read
    rw [escapeUnit_split, stringBody, if_neg (by decide), if_pos rfl, read]
  unfold printChar
  split
  · rename_i letter short
    obtain ⟨notUnit, meaning⟩ := shortEscape_meaning short
    show stringBody (fuel + 1) (92 :: CodePoint.ofByte letter :: tail) = _
    rw [stringBody, if_neg (by decide), if_pos rfl, escaped, if_neg notUnit, meaning]
    rfl
  · rename_i plain
    obtain ⟨notQuote, notSlash⟩ := shortEscape_none plain
    split
    · rename_i printable
      have same : CodePoint.ofByte (UInt8.ofNat c.val) = c := by
        refine Fin.ext ?_
        show (UInt8.ofNat c.val).toNat = c.val
        rw [UInt8.toNat_ofNat']
        omega
      show stringBody (fuel + 1) (CodePoint.ofByte (UInt8.ofNat c.val) :: tail) = _
      rw [same, stringBody, if_neg notQuote, if_neg notSlash, if_neg (by omega)]
    · split
      · rename_i bmp
        refine escape ?_
        rw [escaped_unit bmp apart, codePoint_val]
      · rename_i supplementary
        have bound := c.isLt
        rw [ofAscii_append, List.append_assoc]
        refine escape ?_
        rw [escaped_pair (by omega), show 65536 + (c.val - 65536) = c.val by omega, codePoint_val]

/-- A printed character other than a low surrogate is not read as the second half of a pair. -/
theorem lowUnit_print {c : CodePoint} (h : isLowSurrogate c = false) (tail : Text) :
    lowUnit (ofAscii (printChar c) ++ tail) = none := by
  unfold printChar
  split
  · rename_i letter short
    show lowUnit (92 :: CodePoint.ofByte letter :: tail) = none
    unfold lowUnit
    exact if_neg fun both => (shortEscape_meaning short).1 both.2
  · rename_i plain
    split
    · rename_i printable
      have same : CodePoint.ofByte (UInt8.ofNat c.val) = c := by
        refine Fin.ext ?_
        show (UInt8.ofNat c.val).toNat = c.val
        rw [UInt8.toNat_ofNat']
        omega
      show lowUnit (CodePoint.ofByte (UInt8.ofNat c.val) :: tail) = none
      rw [same]
      unfold lowUnit
      cases tail with
      | nil => rfl
      | cons u rest => exact if_neg fun both => (shortEscape_none plain).2 both.1
    · split
      · rename_i bmp
        rw [lowUnit_escape bmp, h]
        rfl
      · rename_i supplementary
        have bound := c.isLt
        have notLow : isLowSurrogate (55296 + (c.val - 65536) / 1024) = false := by
          simp only [isLowSurrogate, Bool.and_eq_false_iff, decide_eq_false_iff_not]
          omega
        rw [ofAscii_append, List.append_assoc, lowUnit_escape (by omega), notLow]
        rfl

theorem stringBody_print {s : Text} (h : hasPair s = false) (rest : Text) {fuel : Nat}
    (enough : s.length < fuel) :
    stringBody fuel (ofAscii (s.flatMap printChar) ++ 34 :: rest) = some (s, rest) := by
  induction s generalizing fuel with
  | nil =>
    obtain ⟨n, rfl⟩ : ∃ n, fuel = n + 1 := ⟨fuel - 1, by simp at enough; omega⟩
    rfl
  | cons c s ih =>
    obtain ⟨n, rfl⟩ : ∃ n, fuel = n + 1 := ⟨fuel - 1, by simp at enough; omega⟩
    rw [List.flatMap_cons, ofAscii_append, List.append_assoc, stringBody_char]
    · have tailPlain : hasPair s = false := by
        cases s with
        | nil => rfl
        | cons d s =>
          simp only [hasPair, Bool.or_eq_false_iff] at h
          exact h.2
      rw [ih tailPlain (by simpa using enough)]
      rfl
    · intro high
      cases s with
      | nil =>
        show lowUnit (34 :: rest) = none
        unfold lowUnit
        cases rest with
        | nil => rfl
        | cons u rest => exact if_neg fun both => absurd both.1 (by decide)
      | cons d s =>
        simp only [hasPair, high, Bool.true_and, Bool.or_eq_false_iff] at h
        rw [List.flatMap_cons, ofAscii_append, List.append_assoc]
        exact lowUnit_print h.1 _

theorem printChar_ne_nil (c : CodePoint) : printChar c ≠ [] := by
  unfold printChar
  repeat' split
  all_goals exact List.cons_ne_nil _ _

theorem length_le_print (s : Text) : s.length ≤ (s.flatMap printChar).length := by
  induction s with
  | nil => simp
  | cons c s ih =>
    have := List.length_pos_iff.mpr (printChar_ne_nil c)
    rw [List.flatMap_cons, List.length_append, List.length_cons]
    omega

/-- A printed string, behind its opening quote. -/
theorem printString_read {s : Text} (h : hasPair s = false) (rest : Text) :
    ∃ behind, ofAscii (printString s) ++ rest = 34 :: behind ∧
      stringBody (behind.length + 1) behind = some (s, rest) := by
  refine ⟨ofAscii (s.flatMap printChar) ++ 34 :: rest, ?_, stringBody_print h rest ?_⟩
  · simp only [printString, ofAscii_append, List.append_assoc]
    rfl
  · have := length_le_print s
    simp only [List.length_append, ofAscii_length, List.length_cons]
    omega

/-! ## Numbers -/

/-- What may stand behind a value: the end, a comma or a closing bracket. -/
def Delimited (rest : Text) : Prop := ∀ c, rest.head? = some c → c = 44 ∨ c = 93 ∨ c = 125

/-- A run of digits, without a leading zero unless it is one. -/
structure Numeral (n : Nat) (digits : Text) : Prop where
  inside : ∀ c ∈ digits, isDigitPoint c = true
  value : digitsValue digits = n
  leading : digits = [48] ∨ ∃ d more, digits = d :: more ∧ d ≠ 48

theorem digitsValue_append (digits : Text) (d : CodePoint) :
    digitsValue (digits ++ [d]) = 10 * digitsValue digits + (d.val - 48) := by
  simp [digitsValue]

theorem decimal_numeral (n : Nat) : Numeral n (ofAscii (decimal n)) := by
  induction n using Nat.strongRecOn with
  | ind n ih =>
    by_cases small : n < 10
    · rw [decimal_base small]
      have one : ∀ k < 10, isDigitPoint (CodePoint.ofByte (UInt8.ofNat (48 + k))) = true ∧
          digitsValue [CodePoint.ofByte (UInt8.ofNat (48 + k))] = k ∧
          (k ≠ 0 → CodePoint.ofByte (UInt8.ofNat (48 + k)) ≠ 48) := by decide
      obtain ⟨isDigit, value, nonzero⟩ := one n small
      refine ⟨by simpa [ofAscii] using isDigit, value, ?_⟩
      by_cases zero : n = 0
      · exact Or.inl (by rw [zero]; rfl)
      · exact Or.inr ⟨_, [], rfl, nonzero zero⟩
    · have step := decimal_step (Nat.le_of_not_lt small)
      have front := ih (n / 10) (by omega)
      have last : ∀ k < 10, isDigitPoint (CodePoint.ofByte (UInt8.ofNat (48 + k))) = true ∧
          (CodePoint.ofByte (UInt8.ofNat (48 + k))).val - 48 = k := by decide
      obtain ⟨isDigit, value⟩ := last (n % 10) (Nat.mod_lt n (by decide))
      rw [step, ofAscii_append]
      constructor
      · intro c hc
        rcases List.mem_append.mp hc with hc | hc
        · exact front.inside c hc
        · rw [List.mem_singleton.mp hc]
          exact isDigit
      · show digitsValue (_ ++ [_]) = n
        rw [digitsValue_append, front.value, value]
        omega
      · rcases front.leading with zero | ⟨d, more, split, nonzero⟩
        · have none := front.value
          rw [zero] at none
          simp only [digitsValue, List.foldl_cons, List.foldl_nil] at none
          have : (48 : CodePoint).val = 48 := rfl
          omega
        · exact Or.inr ⟨d, more ++ ofAscii [UInt8.ofNat (48 + n % 10)], by rw [split]; rfl, nonzero⟩

theorem takeWhile_digits {digits rest : Text} (inside : ∀ c ∈ digits, isDigitPoint c = true)
    (h : Delimited rest) : (digits ++ rest).takeWhile isDigitPoint = digits := by
  rw [List.takeWhile_append_of_pos inside]
  cases rest with
  | nil => simp
  | cons c more =>
    have stop : isDigitPoint c = false := by
      rcases h c rfl with rfl | rfl | rfl <;> decide
    simp [stop]

theorem fraction_delimited {rest : Text} (h : Delimited rest) : fraction rest = [] := by
  cases rest with
  | nil => rfl
  | cons c more =>
    unfold fraction
    refine if_neg fun both => ?_
    rcases h c rfl with rfl | rfl | rfl <;> exact absurd both.1 (by decide)

theorem exponent_delimited {rest : Text} (h : Delimited rest) : exponent rest = [] := by
  cases rest with
  | nil => rfl
  | cons c more =>
    unfold exponent
    refine if_neg fun both => ?_
    rcases h c rfl with rfl | rfl | rfl <;> exact absurd both.1 (by decide)

theorem number_numeral {n : Nat} {digits : Text} (h : Numeral n digits) (negative : Bool)
    {rest : Text} (delimited : Delimited rest) :
    number ((if negative then [45] else []) ++ digits ++ rest) =
      some (.int (if negative then -(n : Int) else n), rest) := by
  obtain ⟨d, more, split⟩ : ∃ d more, digits = d :: more := by
    rcases h.leading with zero | ⟨d, more, split, -⟩
    · exact ⟨48, [], zero⟩
    · exact ⟨d, more, split⟩
  have notMinus : (d.val == 45) = false := by
    have isDigit := h.inside d (by rw [split]; exact List.mem_cons_self)
    simp only [isDigitPoint, Bool.and_eq_true, decide_eq_true_eq] at isDigit
    simp only [beq_eq_false_iff_ne, ne_eq]
    omega
  have sign : (List.filter (fun c : CodePoint => c.val == 45)
      (((if negative then [45] else []) ++ digits ++ rest).take 1) : Text) =
      if negative then [45] else [] := by
    cases negative with
    | true => rfl
    | false => simp [split, notMinus]
  have taken : (if (digits ++ rest).head? = some 48 then [48] else
      (digits ++ rest).takeWhile isDigitPoint) = digits := by
    rcases h.leading with zero | ⟨d', more', split', nonzero⟩
    · rw [zero]
      rfl
    · rw [takeWhile_digits h.inside delimited, if_neg]
      rw [split']
      simpa using nonzero
  have body : ((if negative then [45] else []) ++ digits ++ rest : Text).drop
      (if negative then [45] else [] : Text).length = digits ++ rest := by
    cases negative <;> rfl
  unfold number
  dsimp only
  rw [sign, body, taken, if_neg (by rw [split]; exact List.cons_ne_nil _ _), List.drop_left,
    fraction_delimited delimited]
  simp only [List.nil_append, List.length_nil, List.drop_zero, exponent_delimited delimited, if_true,
    h.value]
  cases negative <;> simp

/-- A text no word is a prefix of. -/
theorem atom_of_number {t : Text} (h : ∀ entry ∈ constants, entry.1.isPrefixOf t = false) :
    atom t = number t := by
  unfold atom
  rw [List.find?_eq_none.mpr fun entry hentry => by rw [h entry hentry]; decide]

/-- No word starts with a digit, or with a minus before one. -/
theorem word_head {entry : Text × Json} (h : entry ∈ constants) :
    ∃ c d rest, entry.1 = c :: d :: rest ∧ isDigitPoint c = false ∧ isDigitPoint d = false := by
  simp only [constants, List.mem_cons, List.not_mem_nil, or_false] at h
  rcases h with rfl | rfl | rfl | rfl | rfl | rfl
  all_goals exact ⟨_, _, _, rfl, by decide, by decide⟩

theorem isPrefixOf_of_ne {c d : CodePoint} {word t : Text} (h : c ≠ d) :
    (c :: word).isPrefixOf (d :: t) = false := by
  rw [List.isPrefixOf, beq_eq_false_iff_ne.mpr h, Bool.false_and]

theorem no_word {d : CodePoint} (isDigit : isDigitPoint d = true) (negative : Bool) (rest : Text) :
    ∀ entry ∈ constants,
      entry.1.isPrefixOf ((if negative then [45] else []) ++ d :: rest) = false := by
  intro entry hentry
  obtain ⟨c, e, word, split, first, second⟩ := word_head hentry
  have other : ∀ {x : CodePoint}, isDigitPoint x = false → x ≠ d := by
    rintro x hx rfl
    rw [isDigit] at hx
    cases hx
  rw [split]
  cases negative with
  | false => exact isPrefixOf_of_ne (other first)
  | true =>
    show (c :: e :: word).isPrefixOf (45 :: d :: rest) = false
    rw [List.isPrefixOf, isPrefixOf_of_ne (other second), Bool.and_false]

theorem atom_int (n : Int) {rest : Text} (delimited : Delimited rest) :
    atom (ofAscii (printInt n) ++ rest) = some (.int n, rest) := by
  have numeral := decimal_numeral n.natAbs
  obtain ⟨d, more, split, isDigit⟩ : ∃ d more, ofAscii (decimal n.natAbs) = d :: more ∧
      isDigitPoint d = true := by
    rcases numeral.leading with zero | ⟨d, more, split, -⟩
    · exact ⟨48, [], zero, by decide⟩
    · exact ⟨d, more, split, numeral.inside d (by rw [split]; exact List.mem_cons_self)⟩
  have printed : ofAscii (printInt n) =
      (if decide (n < 0) = true then [45] else []) ++ ofAscii (decimal n.natAbs) := by
    unfold printInt
    rw [ofAscii_append]
    by_cases negative : n < 0
    · simp only [negative, if_true, decide_true]
      rfl
    · simp only [negative, if_false, decide_false, Bool.false_eq_true]
      rfl
  rw [printed, atom_of_number, number_numeral numeral _ delimited]
  · by_cases negative : n < 0
    · simp only [negative, decide_true, if_true, Option.some.injEq, Prod.mk.injEq, and_true, int.injEq]
      omega
    · simp only [negative, decide_false, Bool.false_eq_true, if_false, Option.some.injEq,
        Prod.mk.injEq, and_true, int.injEq]
      omega
  · rw [List.append_assoc, split]
    exact no_word isDigit _ _

/-! ## Documents -/

/-- A float's text that is read as it stands. -/
structure FloatText (literal : Text) : Prop where
  plain : ∀ c ∈ literal, c.val < 128
  visible : ∃ c more, literal = c :: more ∧ c ≠ 34 ∧ c ≠ 123 ∧ c ≠ 91 ∧ c ≠ 93 ∧
    isBlank c = false
  read : ∀ rest, Delimited rest → atom (literal ++ rest) = some (.float literal, rest)

theorem FloatText.printed {literal : Text} (h : FloatText literal) :
    ofAscii (print (.float literal)) = literal := by
  have plain := h.plain
  clear h
  induction literal with
  | nil => rfl
  | cons c more ih =>
    have small := plain c List.mem_cons_self
    have same : CodePoint.ofByte (UInt8.ofNat c.val) = c := Fin.ext (toNat_ofNat (by omega))
    have rest := ih fun c hc => plain c (List.mem_cons_of_mem _ hc)
    show CodePoint.ofByte (UInt8.ofNat c.val) :: _ = _
    rw [same]
    exact congrArg (c :: ·) rest

section
variable (hook : List (Text × Json) → Option Json)

mutual
/-- The hook keeps every member list, and the scalars are read as they are printed. -/
def Readable : Json → Prop
  | .null | .bool _ | .int _ => True
  | .float literal => FloatText literal
  | .str s => hasPair s = false
  | .arr items => ReadableItems items
  | .obj found => hook found = some (.obj found) ∧ ReadableMembers found

def ReadableItems : List Json → Prop
  | [] => True
  | v :: rest => Readable v ∧ ReadableItems rest

def ReadableMembers : List (Text × Json) → Prop
  | [] => True
  | (name, v) :: rest => hasPair name = false ∧ Readable v ∧ ReadableMembers rest
end

theorem readableMembers_of_forall {found : List (Text × Json)}
    (h : ∀ m ∈ found, hasPair m.1 = false ∧ Readable hook m.2) : ReadableMembers hook found := by
  induction found with
  | nil => trivial
  | cons m rest ih =>
    obtain ⟨self, others⟩ := List.forall_mem_cons.mp h
    exact ⟨self.1, self.2, ih others⟩

theorem skipBlanks_of_visible {c : CodePoint} (h : isBlank c = false) (t : Text) :
    skipBlanks (c :: t) = c :: t := by
  simp [skipBlanks, h]

/-- A printed value starts visibly. -/
theorem print_head {v : Json} (h : Readable hook v) (rest : Text) :
    ∃ c more, ofAscii (print v) ++ rest = c :: more ∧ isBlank c = false ∧ c ≠ 93 := by
  cases v with
  | null => exact ⟨_, _, rfl, rfl, by decide⟩
  | bool b => cases b <;> exact ⟨_, _, rfl, rfl, by decide⟩
  | int n =>
    have numeral := decimal_numeral n.natAbs
    obtain ⟨d, more, split⟩ : ∃ d more, ofAscii (decimal n.natAbs) = d :: more := by
      rcases numeral.leading with zero | ⟨d, more, split, -⟩
      · exact ⟨48, [], zero⟩
      · exact ⟨d, more, split⟩
    have isDigit := numeral.inside d (by rw [split]; exact List.mem_cons_self)
    simp only [print, printInt, ofAscii_append]
    split
    · exact ⟨_, _, rfl, rfl, by decide⟩
    · refine ⟨d, more ++ rest, by rw [split]; rfl, ?_, ?_⟩
      · simp only [isDigitPoint, Bool.and_eq_true, decide_eq_true_eq] at isDigit
        simp only [isBlank, Bool.or_eq_false_iff, beq_eq_false_iff_ne, ne_eq]
        omega
      · rintro rfl
        exact absurd isDigit (by decide)
  | float literal =>
    obtain ⟨c, more, split, -, -, -, notBracket, visible⟩ := FloatText.visible h
    rw [FloatText.printed h, split]
    exact ⟨c, more ++ rest, rfl, visible, notBracket⟩
  | str s => exact ⟨_, _, rfl, rfl, by decide⟩
  | arr items => exact ⟨_, _, rfl, rfl, by decide⟩
  | obj found => exact ⟨_, _, rfl, rfl, by decide⟩

theorem value_atom {c : CodePoint} (h : c ≠ 34 ∧ c ≠ 123 ∧ c ≠ 91) (fuel : Nat) (rest : Text) :
    value hook (fuel + 1) (c :: rest) = atom (c :: rest) := by
  rw [value, if_neg h.1, if_neg h.2.1, if_neg h.2.2]

theorem delimited_cons {c : CodePoint} (h : c = 44 ∨ c = 93 ∨ c = 125) (rest : Text) :
    Delimited (c :: rest) := by
  rintro d ⟨⟩
  exact h

theorem join_cons_cons (sep first second : Bytes) (rest : List Bytes) :
    join sep (first :: second :: rest) = first ++ sep ++ join sep (second :: rest) :=
  List.intercalate_cons_cons ..

/-- The length an integer prints with is positive, so is every other's. -/
theorem value_int (n : Int) (fuel : Nat) {rest : Text} (delimited : Delimited rest) :
    value hook (fuel + 1) (ofAscii (printInt n) ++ rest) = some (.int n, rest) := by
  have read := atom_int n delimited
  have numeral := decimal_numeral n.natAbs
  obtain ⟨d, more, split⟩ : ∃ d more, ofAscii (decimal n.natAbs) = d :: more := by
    rcases numeral.leading with zero | ⟨d, more, split, -⟩
    · exact ⟨48, [], zero⟩
    · exact ⟨d, more, split⟩
  have isDigit := numeral.inside d (by rw [split]; exact List.mem_cons_self)
  obtain ⟨c, behind, front, other⟩ : ∃ c behind, ofAscii (printInt n) ++ rest = c :: behind ∧
      (c ≠ 34 ∧ c ≠ 123 ∧ c ≠ 91) := by
    unfold printInt
    rw [ofAscii_append]
    split
    · exact ⟨_, _, rfl, by decide⟩
    · refine ⟨d, more ++ rest, by rw [split]; rfl, ?_⟩
      refine ⟨?_, ?_, ?_⟩ <;> rintro rfl <;> exact absurd isDigit (by decide)
  rw [front] at read ⊢
  rw [value_atom hook other, read]

mutual
theorem value_print : (v : Json) → Readable hook v → ∀ (fuel : Nat) (rest : Text),
    (print v).length < fuel → Delimited rest →
    value hook fuel (ofAscii (print v) ++ rest) = some (v, rest)
  | v, h, 0, _, enough, _ => absurd enough (Nat.not_lt_zero _)
  | .null, _, _ + 1, _, _, _ => rfl
  | .bool true, _, _ + 1, _, _, _ => rfl
  | .bool false, _, _ + 1, _, _, _ => rfl
  | .int n, _, fuel + 1, _, _, delimited => value_int hook n fuel delimited
  | .float literal, h, fuel + 1, rest, _, delimited => by
    obtain ⟨c, more, split, quote, brace, bracket, -⟩ := FloatText.visible h
    have read := FloatText.read h rest delimited
    rw [FloatText.printed h, split, List.cons_append, value_atom hook ⟨quote, brace, bracket⟩]
    rwa [split] at read
  | .str s, h, fuel + 1, rest, _, _ => by
    obtain ⟨behind, split, read⟩ := printString_read h rest
    show value hook (fuel + 1) (ofAscii (printString s) ++ rest) = _
    rw [split, value, if_pos rfl, read]
    rfl
  | .arr [], _, _ + 1, _, _, _ => rfl
  | .arr (v :: more), h, fuel + 1, rest, enough, _ => by
    have inside := items_print (v :: more) h (List.cons_ne_nil _ _) fuel rest (by
      simp only [print, List.length_append, show (ascii "[").length = 1 from rfl,
        show (ascii "]").length = 1 from rfl] at enough
      omega)
    have text : ofAscii (print (.arr (v :: more))) ++ rest =
        91 :: (ofAscii (join (ascii ",") (printItems (v :: more))) ++ 93 :: rest) := by
      simp only [print, ofAscii_append, List.append_assoc]
      rfl
    obtain ⟨c, behind, front, visible, notClose⟩ :
        ∃ c behind, ofAscii (join (ascii ",") (printItems (v :: more))) ++ 93 :: rest = c :: behind ∧
          isBlank c = false ∧ c ≠ 93 := by
      cases more with
      | nil =>
        have single : join (ascii ",") (printItems [v]) = print v := by simp [join, printItems]
        rw [single]
        exact print_head hook h.1 _
      | cons next more =>
        rw [printItems, printItems, join_cons_cons, ofAscii_append, ofAscii_append, List.append_assoc,
          List.append_assoc]
        exact print_head hook h.1 _
    rw [text, value, if_neg (by decide), if_neg (by decide), if_pos rfl]
    rw [front] at inside ⊢
    rw [skipBlanks_of_visible visible]
    dsimp only
    rw [if_neg notClose, inside]
    rfl
  | .obj [], h, _ + 1, rest, _, _ => by
    show (hook []).map (·, rest) = _
    rw [h.1]
    rfl
  | .obj ((name, v) :: more), h, fuel + 1, rest, enough, _ => by
    have inside := members_print ((name, v) :: more) h.2 (List.cons_ne_nil _ _) fuel rest (by
      simp only [print, List.length_append, show (ascii "\x7b").length = 1 from rfl,
        show (ascii "\x7d").length = 1 from rfl] at enough
      omega)
    have text : ofAscii (print (.obj ((name, v) :: more))) ++ rest =
        123 :: (ofAscii (join (ascii ",") (printMembers ((name, v) :: more))) ++ 125 :: rest) := by
      simp only [print, ofAscii_append, List.append_assoc]
      rfl
    obtain ⟨behind, front⟩ : ∃ behind, ofAscii (join (ascii ",") (printMembers ((name, v) :: more))) ++
        125 :: rest = 34 :: behind := by
      cases more <;> exact ⟨_, rfl⟩
    rw [text, value, if_neg (by decide), if_pos rfl]
    rw [front] at inside ⊢
    rw [skipBlanks_of_visible (by rfl)]
    dsimp only
    rw [if_neg (by decide), inside]
    show (hook ((name, v) :: more)).map (·, rest) = _
    rw [h.1]
    rfl

theorem items_print : (found : List Json) → ReadableItems hook found → found ≠ [] →
    ∀ (fuel : Nat) (rest : Text), (join (ascii ",") (printItems found)).length + 1 < fuel →
    items hook fuel (ofAscii (join (ascii ",") (printItems found)) ++ 93 :: rest) = some (found, rest)
  | [], _, nonempty, _, _, _ => absurd rfl nonempty
  | _, _, _, 0, _, enough => absurd enough (Nat.not_lt_zero _)
  | [v], h, _, fuel + 1, rest, enough => by
    have single : join (ascii ",") (printItems [v]) = print v := by simp [join, printItems]
    rw [single] at enough ⊢
    rw [items, value_print v h.1 fuel _ (by omega) (delimited_cons (Or.inr (Or.inl rfl)) _)]
    dsimp only
    rw [skipBlanks_of_visible (by rfl)]
    rfl
  | v :: next :: more, h, _, fuel + 1, rest, enough => by
    rw [printItems, printItems, join_cons_cons] at enough ⊢
    have comma : (ascii ",").length = 1 := rfl
    simp only [List.length_append, comma] at enough
    have behind := items_print (next :: more) h.2 (List.cons_ne_nil _ _) fuel rest (by
      rw [printItems]
      omega)
    obtain ⟨c, tail, front, visible, -⟩ :
        ∃ c tail, ofAscii (join (ascii ",") (printItems (next :: more))) ++ 93 :: rest = c :: tail ∧
          isBlank c = false ∧ c ≠ 93 := by
      cases more with
      | nil =>
        have single : join (ascii ",") (printItems [next]) = print next := by simp [join, printItems]
        rw [single]
        exact print_head hook h.2.1 _
      | cons third more =>
        rw [printItems, printItems, join_cons_cons, ofAscii_append, ofAscii_append, List.append_assoc,
          List.append_assoc]
        exact print_head hook h.2.1 _
    have text : ofAscii (print v ++ ascii "," ++ join (ascii ",") (print next :: printItems more)) ++
        93 :: rest = ofAscii (print v) ++
          44 :: (ofAscii (join (ascii ",") (printItems (next :: more))) ++ 93 :: rest) := by
      simp only [ofAscii_append, List.append_assoc]
      rfl
    rw [text, items, value_print v h.1 fuel _ (by omega) (delimited_cons (Or.inl rfl) _)]
    dsimp only
    rw [skipBlanks_of_visible (by rfl)]
    dsimp only
    rw [if_neg (by decide), if_pos rfl]
    rw [front] at behind ⊢
    rw [skipBlanks_of_visible visible, behind]
    rfl

theorem members_print : (found : List (Text × Json)) → ReadableMembers hook found → found ≠ [] →
    ∀ (fuel : Nat) (rest : Text), (join (ascii ",") (printMembers found)).length + 1 < fuel →
    members hook fuel (ofAscii (join (ascii ",") (printMembers found)) ++ 125 :: rest) =
      some (found, rest)
  | [], _, nonempty, _, _, _ => absurd rfl nonempty
  | _, _, _, 0, _, enough => absurd enough (Nat.not_lt_zero _)
  | (name, v) :: more, h, _, fuel + 1, rest, enough => by
    obtain ⟨plainName, readable, others⟩ := h
    have colonLength : (ascii ":").length = 1 := rfl
    have commaLength : (ascii ",").length = 1 := rfl
    have short : (print v).length < fuel := by
      cases more with
      | nil =>
        simp only [join, printMembers, List.intercalate_singleton, List.length_append] at enough
        omega
      | cons next more =>
        rw [printMembers, printMembers, join_cons_cons] at enough
        simp only [List.length_append] at enough
        omega
    -- the member in front, whatever stands behind it
    have front : ∀ (c : CodePoint) (tail : Text), c = 44 ∨ c = 125 →
        members hook (fuel + 1) (ofAscii (printString name ++ ascii ":" ++ print v) ++ c :: tail) =
          if c = 125 then some ([(name, v)], tail)
          else if c = 44 then
            (members hook fuel (skipBlanks tail)).map fun (found, rest) => ((name, v) :: found, rest)
          else none := by
      intro c tail which
      obtain ⟨behind, split, read⟩ := printString_read plainName
        (58 :: (ofAscii (print v) ++ c :: tail))
      have text : ofAscii (printString name ++ ascii ":" ++ print v) ++ c :: tail =
          ofAscii (printString name) ++ 58 :: (ofAscii (print v) ++ c :: tail) := by
        simp only [ofAscii_append, List.append_assoc]
        rfl
      obtain ⟨d, after, start, visible, -⟩ := print_head hook readable (c :: tail)
      have whole := value_print v readable fuel (c :: tail) short
        (delimited_cons (by rcases which with h | h <;> simp [h]) tail)
      have stop : skipBlanks (c :: tail) = c :: tail :=
        skipBlanks_of_visible (by rcases which with rfl | rfl <;> rfl) tail
      rw [text, split, members, if_neg (by simp), read]
      dsimp only
      rw [skipBlanks_of_visible (by rfl)]
      dsimp only
      rw [if_neg (by simp), start, skipBlanks_of_visible visible, ← start, whole]
      dsimp only
      rw [stop]
    cases more with
    | nil =>
      have single : join (ascii ",") (printMembers [(name, v)]) =
          printString name ++ ascii ":" ++ print v := by
        simp [join, printMembers]
      rw [single, front 125 rest (Or.inr rfl), if_pos rfl]
    | cons next more =>
      have behind := members_print (next :: more) others (List.cons_ne_nil _ _) fuel rest (by
        rw [printMembers, printMembers, join_cons_cons] at enough
        rw [printMembers]
        simp only [List.length_append] at enough
        omega)
      have start : skipBlanks (ofAscii (join (ascii ",") (printMembers (next :: more))) ++ 125 :: rest) =
          ofAscii (join (ascii ",") (printMembers (next :: more))) ++ 125 :: rest := by
        cases more <;> rfl
      have text : ofAscii (join (ascii ",") (printMembers ((name, v) :: next :: more))) ++ 125 :: rest =
          ofAscii (printString name ++ ascii ":" ++ print v) ++
            44 :: (ofAscii (join (ascii ",") (printMembers (next :: more))) ++ 125 :: rest) := by
        rw [printMembers, printMembers, join_cons_cons]
        simp only [ofAscii_append, List.append_assoc]
        rfl
      rw [text, front 44 _ (Or.inl rfl), if_neg (by decide), if_pos rfl, start, behind]
      rfl
end

/-! A printed document is plain ASCII. -/

theorem hexDigit_plain {n : Nat} (h : n < 16) : (hexDigit n).toNat < 128 := by
  revert n
  decide

theorem escapeUnit_plain {n : Nat} (h : n < 65536) : ∀ b ∈ escapeUnit n, b.toNat < 128 := by
  unfold escapeUnit
  simp only [List.forall_mem_cons]
  exact ⟨by decide, by decide, hexDigit_plain (by omega), hexDigit_plain (by omega),
    hexDigit_plain (by omega), hexDigit_plain (by omega), by simp⟩

theorem printChar_plain (c : CodePoint) : ∀ b ∈ printChar c, b.toNat < 128 := by
  have bound := c.isLt
  unfold printChar
  split
  · rename_i letter short
    have plain : letter.toNat < 128 := by
      unfold shortEscape at short
      repeat' split at short
      all_goals
        cases short
        try decide
    simp only [List.forall_mem_cons]
    exact ⟨by decide, plain, by simp⟩
  · split
    · rename_i printable
      simp only [List.forall_mem_cons]
      exact ⟨by rw [toNat_ofNat (by omega)]; omega, by simp⟩
    · split
      · rename_i bmp
        exact escapeUnit_plain bmp
      · exact List.forall_mem_append.mpr ⟨escapeUnit_plain (by omega), escapeUnit_plain (by omega)⟩

theorem printString_plain (s : Text) : ∀ b ∈ printString s, b.toNat < 128 := by
  intro b hb
  simp only [printString, List.mem_append, List.mem_singleton, List.mem_flatMap] at hb
  rcases hb with (rfl | ⟨c, -, hb⟩) | rfl
  · decide
  · exact printChar_plain c b hb
  · decide

theorem mem_join {sep : Bytes} {parts : List Bytes} {b : Byte} (h : b ∈ join sep parts) :
    b ∈ sep ∨ ∃ part ∈ parts, b ∈ part := by
  induction parts with
  | nil => exact absurd h (by simp [join])
  | cons part rest ih =>
    cases rest with
    | nil => exact Or.inr ⟨part, List.mem_cons_self, by simpa [join] using h⟩
    | cons next rest =>
      rw [join_cons_cons, List.mem_append, List.mem_append] at h
      rcases h with (h | h) | h
      · exact Or.inr ⟨part, List.mem_cons_self, h⟩
      · exact Or.inl h
      · rcases ih h with h | ⟨other, inside, h⟩
        · exact Or.inl h
        · exact Or.inr ⟨other, List.mem_cons_of_mem _ inside, h⟩

theorem printInt_plain (n : Int) : ∀ b ∈ printInt n, b.toNat < 128 := by
  intro b hb
  unfold printInt at hb
  rcases List.mem_append.mp hb with hb | hb
  · split at hb
    · rw [List.mem_singleton.mp hb]
      decide
    · cases hb
  · have isDigit := (decimal_numeral n.natAbs).inside (CodePoint.ofByte b) (List.mem_map_of_mem hb)
    simp only [isDigitPoint, Bool.and_eq_true, decide_eq_true_eq] at isDigit
    have : (CodePoint.ofByte b).val = b.toNat := rfl
    omega

theorem ascii_small (s : String) (h : (ascii s).all (fun b => decide (b.toNat < 128)) = true) :
    ∀ b ∈ ascii s, b.toNat < 128 := fun b hb => of_decide_eq_true (List.all_eq_true.mp h b hb)

mutual
theorem print_plain : (v : Json) → Readable hook v → ∀ b ∈ print v, b.toNat < 128
  | .null, _ => ascii_small "null" (by decide)
  | .bool true, _ => ascii_small "true" (by decide)
  | .bool false, _ => ascii_small "false" (by decide)
  | .int n, _ => printInt_plain n
  | .float literal, h => by
    intro b hb
    have inside : CodePoint.ofByte b ∈ literal := by
      rw [← FloatText.printed h]
      exact List.mem_map_of_mem hb
    exact FloatText.plain h _ inside
  | .str s, _ => printString_plain s
  | .arr items, h => by
    intro b hb
    simp only [print, List.mem_append] at hb
    rcases hb with (hb | hb) | hb
    · exact ascii_small "[" (by decide) b hb
    · rcases mem_join hb with hb | ⟨part, inside, hb⟩
      · exact ascii_small "," (by decide) b hb
      · exact printItems_plain items h part inside b hb
    · exact ascii_small "]" (by decide) b hb
  | .obj found, h => by
    intro b hb
    simp only [print, List.mem_append] at hb
    rcases hb with (hb | hb) | hb
    · exact ascii_small "\x7b" (by decide) b hb
    · rcases mem_join hb with hb | ⟨part, inside, hb⟩
      · exact ascii_small "," (by decide) b hb
      · exact printMembers_plain found h.2 part inside b hb
    · exact ascii_small "\x7d" (by decide) b hb

theorem printItems_plain : (found : List Json) → ReadableItems hook found →
    ∀ part ∈ printItems found, ∀ b ∈ part, b.toNat < 128
  | [], _ => by simp [printItems]
  | v :: rest, h => by
    rw [printItems, List.forall_mem_cons]
    exact ⟨print_plain v h.1, printItems_plain rest h.2⟩

theorem printMembers_plain : (found : List (Text × Json)) → ReadableMembers hook found →
    ∀ part ∈ printMembers found, ∀ b ∈ part, b.toNat < 128
  | [], _ => by simp [printMembers]
  | (name, v) :: rest, h => by
    rw [printMembers, List.forall_mem_cons]
    refine ⟨fun b hb => ?_, printMembers_plain rest h.2.2⟩
    simp only [List.mem_append] at hb
    rcases hb with (hb | hb) | hb
    · exact printString_plain name b hb
    · exact ascii_small ":" (by decide) b hb
    · exact print_plain v h.2.1 b hb
end

/-- A printed document read back is the document. -/
theorem loads_print {v : Json} (h : Readable hook v) : loads hook (ofAscii (print v)) = some v := by
  have read := value_print hook v h ((ofAscii (print v)).length + 1) [] (by simp) (by simp [Delimited])
  obtain ⟨c, more, split, visible, -⟩ := print_head hook h []
  rw [List.append_nil] at read split
  unfold loads
  rw [split] at read ⊢
  rw [skipBlanks_of_visible visible, read]
  rfl

/-- The bytes of a printed document, decoded and read. -/
theorem loads_bytes {v : Json} (h : Readable hook v) :
    (decodeUtf8 (print v)).bind (loads hook) = some v := by
  rw [decodeUtf8_ascii (print_plain hook v h), Option.bind_some, loads_print hook h]

end

end KonnectFapi.Lib.Json

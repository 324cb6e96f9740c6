import KonnectFapi.Lib.ByteString

/-!
# Unicode text

Strings of a language whose strings are sequences of code points, surrogates
included, and the strict UTF-8 decoding that produces them from bytes.
-/

namespace KonnectFapi.Lib

abbrev CodePoint := Fin 1114112
abbrev Text := List CodePoint

instance codePoint_neZero : @NeZero Nat Zero.ofOfNat0 1114112 := ⟨by decide⟩
instance codePoint_lawfulBEq : LawfulBEq CodePoint := inferInstance
instance text_lawfulBEq : LawfulBEq Text := inferInstance

def CodePoint.ofByte (b : Byte) : CodePoint := ⟨b.toNat, by have := b.toNat_lt; omega⟩

/-- Bytes below 128 read as text. -/
def ofAscii (bs : Bytes) : Text := bs.map CodePoint.ofByte

/-- The text of an ASCII literal. -/
def text (s : String) : Text := ofAscii (ascii s)

/-- A code point from a number known to be one. -/
def codePoint (n : Nat) : CodePoint := Fin.ofNat 1114112 n

def isHighSurrogate (n : Nat) : Bool := 55296 ≤ n && n ≤ 56319
def isLowSurrogate (n : Nat) : Bool := 56320 ≤ n && n ≤ 57343

/-- The text has no UTF-8 encoding. -/
def hasSurrogate (t : Text) : Bool := t.any fun c => isHighSurrogate c || isLowSurrogate c

/-- Somewhere a high surrogate stands right before a low one. -/
def hasPair : Text → Bool
  | high :: low :: rest => isHighSurrogate high && isLowSurrogate low || hasPair (low :: rest)
  | _ => false

/-- Control characters, DEL included. -/
def isControl (c : CodePoint) : Bool := c.val < 32 || c.val == 127

/-- `str.isspace` of one character. -/
def isSpacePoint (c : CodePoint) : Bool :=
  (9 ≤ c.val && c.val ≤ 13) || (28 ≤ c.val && c.val ≤ 32) || c.val == 133 || c.val == 160 ||
    c.val == 5760 || (8192 ≤ c.val && c.val ≤ 8202) || c.val == 8232 || c.val == 8233 ||
    c.val == 8239 || c.val == 8287 || c.val == 12288

/-- `str.split()`: the runs between white space. -/
def words (t : Text) : List Text := (t.splitOnP isSpacePoint).filter (· ≠ [])

/-- `str.partition(sep)` at one character: what stands before and after it. -/
def partition (sep : CodePoint) (t : Text) : Option (Text × Text) :=
  match t.dropWhile (· ≠ sep) with
  | [] => none
  | _ :: rest => some (t.takeWhile (· ≠ sep), rest)

def lowerPoint (c : CodePoint) : CodePoint :=
  if 65 ≤ c.val ∧ c.val ≤ 90 then codePoint (c.val + 32) else c

/-- `str.lower()` as far as ASCII letters go. -/
def lowerText (t : Text) : Text := t.map lowerPoint

theorem eq_of_partition {sep : CodePoint} {t before after : Text}
    (h : partition sep t = some (before, after)) : t = before ++ sep :: after := by
  unfold partition at h
  split at h
  · cases h
  · rename_i c rest split
    obtain ⟨rfl, rfl⟩ := Prod.mk.inj (Option.some.inj h)
    have stop : c = sep := by
      have head := List.head?_dropWhile_not (· ≠ sep) t
      rw [split] at head
      simpa using head
    conv_lhs => rw [← List.takeWhile_append_dropWhile (p := (· ≠ sep)) (l := t), split, stop]

theorem partition_of_not_mem {sep : CodePoint} {t : Text} (h : sep ∉ t) : partition sep t = none := by
  have inside : ∀ c ∈ t, decide (c ≠ sep) = true := fun c hc => by
    simpa using ne_of_mem_of_not_mem hc h
  have dropped : (t ++ []).dropWhile (fun c => decide (c ≠ sep)) = [] :=
    List.dropWhile_append_of_pos inside
  rw [List.append_nil] at dropped
  unfold partition
  rw [dropped]

theorem partition_append {sep : CodePoint} {before after : Text} (h : sep ∉ before) :
    partition sep (before ++ sep :: after) = some (before, after) := by
  have inside : ∀ c ∈ before, decide (c ≠ sep) = true := fun c hc => by
    simpa using ne_of_mem_of_not_mem hc h
  unfold partition
  rw [List.dropWhile_append_of_pos inside, List.takeWhile_append_of_pos inside]
  simp

/-- A separator that stands in the text splits it where it stands first. -/
theorem partition_cases (sep : CodePoint) (t : Text) :
    (sep ∉ t ∧ partition sep t = none) ∨
      ∃ before after, t = before ++ sep :: after ∧ sep ∉ before ∧
        partition sep t = some (before, after) := by
  by_cases h : sep ∈ t
  · obtain ⟨before, after, rfl, first⟩ := List.eq_append_cons_of_mem h
    exact Or.inr ⟨before, after, rfl, first, partition_append first⟩
  · exact Or.inl ⟨h, partition_of_not_mem h⟩

@[simp] theorem lowerText_length (t : Text) : (lowerText t).length = t.length := List.length_map ..

@[simp] theorem lowerText_append (a b : Text) : lowerText (a ++ b) = lowerText a ++ lowerText b :=
  List.map_append

theorem lowerPoint_val (c : CodePoint) :
    (lowerPoint c).val = if 65 ≤ c.val ∧ c.val ≤ 90 then c.val + 32 else c.val := by
  unfold lowerPoint
  split
  · rename_i upper
    show (c.val + 32) % 1114112 = _
    omega
  · rfl

@[simp] theorem lowerText_lowerText (t : Text) : lowerText (lowerText t) = lowerText t := by
  have twice : ∀ c, lowerPoint (lowerPoint c) = lowerPoint c := by
    intro c
    apply Fin.ext
    rw [lowerPoint_val, lowerPoint_val]
    split
    · rw [if_neg (by omega)]
    · rfl
  simp [lowerText, List.map_map, Function.comp_def, twice]

theorem ofAscii_injective : Function.Injective ofAscii := by
  refine List.map_injective_iff.mpr fun a b h => ?_
  have same : (CodePoint.ofByte a).val = (CodePoint.ofByte b).val := by rw [h]
  exact UInt8.toNat_inj.mp same

@[simp] theorem ofAscii_append (a b : Bytes) : ofAscii (a ++ b) = ofAscii a ++ ofAscii b :=
  List.map_append

@[simp] theorem ofAscii_length (a : Bytes) : (ofAscii a).length = a.length := List.length_map ..

/-- Text below the surrogates has no pair of them. -/
theorem hasPair_of_below {t : Text} (h : ∀ c ∈ t, c.val < 55296) : hasPair t = false := by
  induction t with
  | nil => rfl
  | cons c rest ih =>
    cases rest with
    | nil => rfl
    | cons d more =>
      have small := h c List.mem_cons_self
      have low : isHighSurrogate c.val = false := by
        simp only [isHighSurrogate, Bool.and_eq_false_iff, decide_eq_false_iff_not]
        omega
      rw [hasPair, low, Bool.false_and, Bool.false_or]
      exact ih fun c hc => h c (List.mem_cons_of_mem _ hc)

@[simp] theorem hasPair_text (s : String) : hasPair (text s) = false := by
  apply hasPair_of_below
  intro c hc
  obtain ⟨b, -, rfl⟩ := List.mem_map.mp hc
  have small := b.toNat_lt
  exact Nat.lt_trans small (by decide)

/-! ## UTF-8 -/

def isContinuation (b : Byte) : Bool := 128 ≤ b.toNat && b.toNat < 192

def twoBytes (a b : Byte) : Option CodePoint :=
  let v := a.toNat % 32 * 64 + b.toNat % 64
  if isContinuation b && 128 ≤ v then some (codePoint v) else none

def threeBytes (a b c : Byte) : Option CodePoint :=
  let v := a.toNat % 16 * 4096 + b.toNat % 64 * 64 + c.toNat % 64
  if isContinuation b && isContinuation c && 2048 ≤ v && !isHighSurrogate v && !isLowSurrogate v then
    some (codePoint v) else none

def fourBytes (a b c d : Byte) : Option CodePoint :=
  let v := a.toNat % 8 * 262144 + b.toNat % 64 * 4096 + c.toNat % 64 * 64 + d.toNat % 64
  if isContinuation b && isContinuation c && isContinuation d && 65536 ≤ v && v < 1114112 then
    some (codePoint v) else none

/-- `bytes.decode("utf-8")`. -/
def decodeUtf8 : Bytes → Option Text
  | [] => some []
  | a :: rest =>
    if a.toNat < 128 then (decodeUtf8 rest).map (CodePoint.ofByte a :: ·)
    else if a.toNat < 192 then none
    else if a.toNat < 224 then
      match rest with
      | b :: rest => do return (← twoBytes a b) :: (← decodeUtf8 rest)
      | _ => none
    else if a.toNat < 240 then
      match rest with
      | b :: c :: rest => do return (← threeBytes a b c) :: (← decodeUtf8 rest)
      | _ => none
    else if a.toNat < 248 then
      match rest with
      | b :: c :: d :: rest => do return (← fourBytes a b c d) :: (← decodeUtf8 rest)
      | _ => none
    else none

/-- The bytes of one code point; a surrogate has none. -/
def encodePoint (c : CodePoint) : Option Bytes :=
  if c.val < 128 then some [UInt8.ofNat c.val]
  else if c.val < 2048 then some [UInt8.ofNat (192 + c.val / 64), UInt8.ofNat (128 + c.val % 64)]
  else if isHighSurrogate c.val || isLowSurrogate c.val then none
  else if c.val < 65536 then
    some [UInt8.ofNat (224 + c.val / 4096), UInt8.ofNat (128 + c.val / 64 % 64),
      UInt8.ofNat (128 + c.val % 64)]
  else
    some [UInt8.ofNat (240 + c.val / 262144), UInt8.ofNat (128 + c.val / 4096 % 64),
      UInt8.ofNat (128 + c.val / 64 % 64), UInt8.ofNat (128 + c.val % 64)]

/-- `str.encode("utf-8")`. -/
def encodeUtf8 : Text → Option Bytes
  | [] => some []
  | c :: rest => do return (← encodePoint c) ++ (← encodeUtf8 rest)

theorem toNat_ofNat {n : Nat} (h : n < 256) : (UInt8.ofNat n).toNat = n := by
  rw [UInt8.toNat_ofNat']
  omega

theorem isContinuation_ofNat {n : Nat} (h : n < 64) : isContinuation (UInt8.ofNat (128 + n)) = true := by
  simp only [isContinuation, toNat_ofNat (show 128 + n < 256 by omega), Bool.and_eq_true,
    decide_eq_true_eq]
  omega

theorem codePoint_val (c : CodePoint) : codePoint c.val = c := Fin.ofNat_val_eq_self c

theorem decodeUtf8_encodePoint {c : CodePoint} {bs : Bytes} (h : encodePoint c = some bs)
    (rest : Bytes) : decodeUtf8 (bs ++ rest) = (decodeUtf8 rest).map (c :: ·) := by
  have bound := c.isLt
  unfold encodePoint at h
  split at h
  · rename_i one
    obtain rfl := Option.some.inj h
    have same : CodePoint.ofByte (UInt8.ofNat c.val) = c := Fin.ext (toNat_ofNat (by omega))
    rw [List.singleton_append, decodeUtf8.eq_def (_ :: rest)]
    dsimp only
    rw [toNat_ofNat (by omega), if_pos one, same]
  · split at h
    · rename_i two
      obtain rfl := Option.some.inj h
      have sum : (192 + c.val / 64) % 32 * 64 + (128 + c.val % 64) % 64 = c.val := by omega
      have read : twoBytes (UInt8.ofNat (192 + c.val / 64)) (UInt8.ofNat (128 + c.val % 64)) = some c := by
        unfold twoBytes
        rw [isContinuation_ofNat (by omega), toNat_ofNat (by omega), toNat_ofNat (by omega)]
        simp only [sum, Bool.true_and, decide_eq_true_eq]
        rw [if_pos (by omega), codePoint_val]
      simp only [List.cons_append, List.nil_append]
      rw [decodeUtf8, toNat_ofNat (by omega), if_neg (by omega), if_neg (by omega), if_pos (by omega)]
      simp only [read]
      cases decodeUtf8 rest <;> rfl
    · split at h
      · cases h
      · rename_i plain
        simp only [Bool.or_eq_true, not_or, Bool.not_eq_true] at plain
        split at h
        · rename_i three
          obtain rfl := Option.some.inj h
          have sum : (224 + c.val / 4096) % 16 * 4096 + (128 + c.val / 64 % 64) % 64 * 64 +
              (128 + c.val % 64) % 64 = c.val := by omega
          have read : threeBytes (UInt8.ofNat (224 + c.val / 4096)) (UInt8.ofNat (128 + c.val / 64 % 64))
              (UInt8.ofNat (128 + c.val % 64)) = some c := by
            unfold threeBytes
            rw [isContinuation_ofNat (by omega), isContinuation_ofNat (by omega), toNat_ofNat (by omega),
              toNat_ofNat (by omega), toNat_ofNat (by omega)]
            simp only [sum, plain.1, plain.2, Bool.true_and, Bool.not_false, Bool.and_true,
              decide_eq_true_eq]
            rw [if_pos (by omega), codePoint_val]
          simp only [List.cons_append, List.nil_append]
          rw [decodeUtf8, toNat_ofNat (by omega), if_neg (by omega), if_neg (by omega),
            if_neg (by omega), if_pos (by omega)]
          simp only [read]
          cases decodeUtf8 rest <;> rfl
        · obtain rfl := Option.some.inj h
          have sum : (240 + c.val / 262144) % 8 * 262144 + (128 + c.val / 4096 % 64) % 64 * 4096 +
              (128 + c.val / 64 % 64) % 64 * 64 + (128 + c.val % 64) % 64 = c.val := by omega
          have read : fourBytes (UInt8.ofNat (240 + c.val / 262144))
              (UInt8.ofNat (128 + c.val / 4096 % 64)) (UInt8.ofNat (128 + c.val / 64 % 64))
              (UInt8.ofNat (128 + c.val % 64)) = some c := by
            unfold fourBytes
            rw [isContinuation_ofNat (by omega), isContinuation_ofNat (by omega),
              isContinuation_ofNat (by omega), toNat_ofNat (by omega), toNat_ofNat (by omega),
              toNat_ofNat (by omega), toNat_ofNat (by omega)]
            simp only [sum, Bool.true_and, Bool.and_eq_true, decide_eq_true_eq]
            rw [if_pos (by omega), codePoint_val]
          simp only [List.cons_append, List.nil_append]
          rw [decodeUtf8, toNat_ofNat (by omega), if_neg (by omega), if_neg (by omega),
            if_neg (by omega), if_neg (by omega), if_pos (by omega)]
          simp only [read]
          cases decodeUtf8 rest <;> rfl

theorem decodeUtf8_encodeUtf8 {t : Text} {bs : Bytes} (h : encodeUtf8 t = some bs) :
    decodeUtf8 bs = some t := by
  induction t generalizing bs with
  | nil =>
    obtain rfl := Option.some.inj h
    rfl
  | cons c rest ih =>
    simp only [encodeUtf8, bind, Option.bind_eq_some_iff, pure, Option.some.injEq] at h
    obtain ⟨front, one, behind, more, rfl⟩ := h
    rw [decodeUtf8_encodePoint one, ih more]
    rfl

/-- Texts with equal bytes are equal. -/
theorem encodeUtf8_injective {a b : Text} {bs : Bytes} (ha : encodeUtf8 a = some bs)
    (hb : encodeUtf8 b = some bs) : a = b :=
  Option.some.inj ((decodeUtf8_encodeUtf8 ha).symm.trans (decodeUtf8_encodeUtf8 hb))

/-- Plain characters are their own encoding. -/
theorem encodeUtf8_plain {t : Text} (plain : ∀ c ∈ t, c.val < 128) {bs : Bytes}
    (h : encodeUtf8 t = some bs) : ofAscii bs = t := by
  induction t generalizing bs with
  | nil =>
    obtain rfl := Option.some.inj h
    rfl
  | cons c rest ih =>
    have small := plain c List.mem_cons_self
    simp only [encodeUtf8, encodePoint, if_pos small, bind, Option.bind_some, Option.bind_eq_some_iff,
      pure, Option.some.injEq] at h
    obtain ⟨behind, more, rfl⟩ := h
    have same : CodePoint.ofByte (UInt8.ofNat c.val) = c := Fin.ext (toNat_ofNat (by omega))
    rw [ofAscii_append, ih (fun c hc => plain c (List.mem_cons_of_mem _ hc)) more]
    exact congrArg (· :: rest) same

theorem length_encodePoint {c : CodePoint} {bs : Bytes} (h : encodePoint c = some bs) :
    0 < bs.length ∧ (bs.length = 1 → c.val < 128) := by
  unfold encodePoint at h
  split at h
  · cases h
    exact ⟨Nat.one_pos, fun _ => by assumption⟩
  · repeat' split at h
    all_goals
      cases h
      try simp

/-- An encoding as long as its text is that of plain characters. -/
theorem plain_of_length {t : Text} {bs : Bytes} (h : encodeUtf8 t = some bs) :
    t.length ≤ bs.length ∧ (bs.length = t.length → ∀ c ∈ t, c.val < 128) := by
  induction t generalizing bs with
  | nil => simp
  | cons c rest ih =>
    simp only [encodeUtf8, bind, Option.bind_eq_some_iff, pure, Option.some.injEq] at h
    obtain ⟨front, one, behind, more, rfl⟩ := h
    obtain ⟨positive, single⟩ := length_encodePoint one
    obtain ⟨bound, plain⟩ := ih more
    simp only [List.length_append, List.length_cons, List.forall_mem_cons]
    refine ⟨by omega, fun same => ⟨single (by omega), plain (by omega)⟩⟩

theorem decodeUtf8_ascii {bs : Bytes} (plain : ∀ b ∈ bs, b.toNat < 128) :
    decodeUtf8 bs = some (ofAscii bs) := by
  induction bs with
  | nil => rfl
  | cons b rest ih =>
    unfold decodeUtf8
    rw [if_pos (plain b List.mem_cons_self),
      ih fun b' hb' => plain b' (List.mem_cons_of_mem b hb')]
    rfl

end KonnectFapi.Lib

import KonnectFapi.Lib.Json

/-!
# What a reader returns

A property of documents that each step of the reader keeps holds of what it returns.
Read from text without surrogates, no string of a document holds a surrogate pair:
escapes that form one are read as the one code point they stand for.
-/

namespace KonnectFapi.Lib.Json

mutual
/-- Every text in the document, member names included, has the property. -/
def AllTexts (p : Text → Prop) : Json → Prop
  | .str s => p s
  | .arr items => AllItems p items
  | .obj found => AllMembers p found
  | _ => True

def AllItems (p : Text → Prop) : List Json → Prop
  | [] => True
  | v :: rest => AllTexts p v ∧ AllItems p rest

def AllMembers (p : Text → Prop) : List (Text × Json) → Prop
  | [] => True
  | (name, v) :: rest => p name ∧ AllTexts p v ∧ AllMembers p rest
end

/-- A text that has a UTF-8 encoding. -/
def Scalar (t : Text) : Prop := ∀ c ∈ t, isHighSurrogate c.val = false ∧ isLowSurrogate c.val = false

theorem Scalar.suffix {t rest : Text} (h : Scalar t) (suffix : rest <:+ t) : Scalar rest :=
  fun c hc => h c (suffix.subset hc)

def IsScalar (c : CodePoint) : Prop := isHighSurrogate c.val = false ∧ isLowSurrogate c.val = false

theorem isScalar_of_range {c : CodePoint} (h : c.val < 55296 ∨ 57343 < c.val) : IsScalar c := by
  simp only [IsScalar, isHighSurrogate, isLowSurrogate, Bool.and_eq_false_iff, decide_eq_false_iff_not]
  omega

theorem codePoint_small {n : Nat} (h : n < 1114112) : (codePoint n).val = n :=
  Nat.mod_eq_of_lt h

theorem twoBytes_scalar {a b : Byte} {c : CodePoint} (h : twoBytes a b = some c) : IsScalar c := by
  unfold twoBytes at h
  dsimp only at h
  split at h
  · obtain rfl := Option.some.inj h
    refine isScalar_of_range (Or.inl ?_)
    rw [codePoint_small (by omega)]
    omega
  · cases h

theorem threeBytes_scalar {a b c : Byte} {d : CodePoint} (h : threeBytes a b c = some d) :
    IsScalar d := by
  unfold threeBytes at h
  dsimp only at h
  split at h
  · rename_i shape
    simp only [Bool.and_eq_true, Bool.not_eq_true'] at shape
    obtain rfl := Option.some.inj h
    unfold IsScalar
    rw [codePoint_small (by omega)]
    exact ⟨shape.1.2, shape.2⟩
  · cases h

theorem fourBytes_scalar {a b c d : Byte} {e : CodePoint} (h : fourBytes a b c d = some e) :
    IsScalar e := by
  unfold fourBytes at h
  dsimp only at h
  split at h
  · rename_i shape
    simp only [Bool.and_eq_true, decide_eq_true_eq] at shape
    obtain rfl := Option.some.inj h
    refine isScalar_of_range (Or.inr ?_)
    rw [codePoint_small (by omega)]
    omega
  · cases h

/-- Decoded text has an encoding. -/
theorem scalar_decodeUtf8 {bs : Bytes} {t : Text} (h : decodeUtf8 bs = some t) : Scalar t := by
  fun_induction decodeUtf8 bs generalizing t with
  | case1 =>
    cases h
    exact fun _ none => by cases none
  | case2 a rest small ih =>
    obtain ⟨more, read, rfl⟩ := Option.map_eq_some_iff.mp h
    refine List.forall_mem_cons.mpr ⟨isScalar_of_range (Or.inl ?_), ih read⟩
    show a.toNat < 55296
    omega
  | case4 a _ _ _ b rest ih =>
    simp only [bind, Option.bind_eq_some_iff, pure, Option.some.injEq] at h
    obtain ⟨c, point, more, read, rfl⟩ := h
    exact List.forall_mem_cons.mpr ⟨twoBytes_scalar point, ih read⟩
  | case6 a _ _ _ _ b c rest ih =>
    simp only [bind, Option.bind_eq_some_iff, pure, Option.some.injEq] at h
    obtain ⟨d, point, more, read, rfl⟩ := h
    exact List.forall_mem_cons.mpr ⟨threeBytes_scalar point, ih read⟩
  | case8 a _ _ _ _ _ b c d rest ih =>
    simp only [bind, Option.bind_eq_some_iff, pure, Option.some.injEq] at h
    obtain ⟨e, point, more, read, rfl⟩ := h
    exact List.forall_mem_cons.mpr ⟨fourBytes_scalar point, ih read⟩
  | _ => cases h

theorem hexPoint_lt {c : CodePoint} (h : isHexPoint c = true) : hexPoint c < 16 := by
  have digit : ∀ b : Byte, isHexDigit b = true → hexValue b < 16 :=
    byte_forall (by decide +kernel)
  unfold isHexPoint at h
  simp only [Bool.and_eq_true] at h
  exact digit _ h.2

theorem hexUnit_some {t rest : Text} {unit : Nat} (h : hexUnit t = some (unit, rest)) :
    unit < 65536 ∧ rest <:+ t := by
  unfold hexUnit at h
  split at h
  · rename_i a b c d more
    split at h
    · rename_i digits
      simp only [Bool.and_eq_true] at digits
      obtain ⟨⟨⟨ha, hb⟩, hc⟩, hd⟩ := digits
      cases h
      have := hexPoint_lt ha
      have := hexPoint_lt hb
      have := hexPoint_lt hc
      have := hexPoint_lt hd
      exact ⟨by omega, [a, b, c, d], rfl⟩
    · cases h
  · cases h

theorem lowUnit_some {t rest : Text} {unit : Nat} (h : lowUnit t = some (unit, rest)) :
    isLowSurrogate unit = true ∧ rest <:+ t := by
  unfold lowUnit at h
  split at h
  · rename_i slash u more
    split at h
    · split at h
      · rename_i unit' rest' found
        split at h
        · rename_i low
          cases h
          exact ⟨low, (hexUnit_some found).2.trans ⟨[slash, u], rfl⟩⟩
        · cases h
      · cases h
    · cases h
  · cases h

/-- What an escape stands for: never the first half of a pair whose second half follows. -/
theorem escaped_some {t rest : Text} {c : CodePoint} (h : escaped t = some (c, rest)) :
    rest <:+ t ∧ (isHighSurrogate c.val = true → lowUnit rest = none) ∧
      (isLowSurrogate c.val = true → (lowUnit (92 :: t)).isSome = true) := by
  unfold escaped at h
  split at h
  · cases h
  · rename_i d more
    split at h
    · rename_i isUnit
      split at h
      · cases h
      · rename_i unit after found
        obtain ⟨bound, suffix⟩ := hexUnit_some found
        have behind : after <:+ d :: more := suffix.trans ⟨[d], rfl⟩
        split at h
        · rename_i high
          have range := high
          simp only [isHighSurrogate, Bool.and_eq_true, decide_eq_true_eq] at range
          split at h
          · rename_i low after' second
            obtain ⟨isLow, suffix'⟩ := lowUnit_some second
            simp only [isLowSurrogate, Bool.and_eq_true, decide_eq_true_eq] at isLow
            obtain ⟨rfl, rfl⟩ := Prod.mk.inj (Option.some.inj h)
            refine ⟨suffix'.trans behind, fun bad => ?_, fun bad => ?_⟩
            · rw [codePoint_small (by omega)] at bad
              simp only [isHighSurrogate, Bool.and_eq_true, decide_eq_true_eq] at bad
              omega
            · rw [codePoint_small (by omega)] at bad
              simp only [isLowSurrogate, Bool.and_eq_true, decide_eq_true_eq] at bad
              omega
          · rename_i apart
            cases h
            refine ⟨behind, fun _ => apart, fun bad => ?_⟩
            rw [codePoint_small (by omega)] at bad
            simp only [isLowSurrogate, Bool.and_eq_true, decide_eq_true_eq] at bad
            omega
        · rename_i notHigh
          cases h
          rw [codePoint_small (by omega)]
          refine ⟨behind, fun bad => absurd bad notHigh, fun low => ?_⟩
          unfold lowUnit
          dsimp only
          rw [if_pos ⟨rfl, isUnit⟩, found]
          dsimp only
          rw [if_pos low]
          rfl
    · obtain ⟨meaning, short, same⟩ := Option.map_eq_some_iff.mp h
      cases same
      have plain : isHighSurrogate c.val = false ∧ isLowSurrogate c.val = false := by
        unfold shortMeaning at short
        repeat' split at short
        all_goals
          cases short
          try exact ⟨by decide, by decide⟩
      refine ⟨⟨[d], rfl⟩, fun bad => ?_, fun bad => ?_⟩
      · rw [plain.1] at bad
        cases bad
      · rw [plain.2] at bad
        cases bad

theorem stringBody_some {fuel : Nat} {t s rest : Text} (plain : Scalar t)
    (h : stringBody fuel t = some (s, rest)) :
    hasPair s = false ∧ rest <:+ t ∧
      ∀ d more, s = d :: more → isLowSurrogate d.val = true → (lowUnit t).isSome = true := by
  induction fuel generalizing t s rest with
  | zero => cases h
  | succ fuel ih =>
    cases t with
    | nil => cases h
    | cons c tail =>
      rw [stringBody] at h
      split at h
      · cases h
        exact ⟨rfl, ⟨[c], rfl⟩, fun _ _ none => by cases none⟩
      · split at h
        · rename_i slash
          subst slash
          split at h
          · cases h
          · rename_i meaning after found
            obtain ⟨suffix, apart, low⟩ := escaped_some found
            obtain ⟨⟨s', rest'⟩, read, same⟩ := Option.map_eq_some_iff.mp h
            cases same
            have inside : after <:+ 92 :: tail := suffix.trans ⟨[92], rfl⟩
            obtain ⟨noPair, suffix', second⟩ := ih (plain.suffix inside) read
            refine ⟨?_, suffix'.trans inside, ?_⟩
            · cases s' with
              | nil => rfl
              | cons d more =>
                simp only [hasPair, noPair, Bool.or_false, Bool.and_eq_false_imp]
                intro high
                rw [← Bool.not_eq_true]
                intro isLow
                have found := second d more rfl isLow
                rw [apart high] at found
                cases found
            · rintro d more ⟨⟩
              exact low
        · split at h
          · cases h
          · obtain ⟨⟨s', rest'⟩, read, same⟩ := Option.map_eq_some_iff.mp h
            cases same
            have self := plain c List.mem_cons_self
            have inside : tail <:+ c :: tail := ⟨[c], rfl⟩
            obtain ⟨noPair, suffix', -⟩ := ih (plain.suffix inside) read
            refine ⟨?_, suffix'.trans inside, ?_⟩
            · cases s' with
              | nil => rfl
              | cons d more => simp only [hasPair, noPair, self.1, Bool.false_and, Bool.or_false]
            · rintro d more ⟨⟩ isLow
              rw [self.2] at isLow
              cases isLow

theorem skipBlanks_suffix (t : Text) : skipBlanks t <:+ t := List.dropWhile_suffix _

theorem number_suffix {t rest : Text} {v : Json} (h : number t = some (v, rest)) :
    rest <:+ t ∧ ((∃ n, v = .int n) ∨ ∃ l, v = .float l) := by
  unfold number at h
  dsimp only at h
  generalize (t.take 1).filter (fun c => c.val == 45) = sign at h
  generalize (if (t.drop sign.length).head? = some 48 then ([48] : Text)
    else (t.drop sign.length).takeWhile isDigitPoint) = digits at h
  split at h
  · cases h
  · split at h
    · cases h
      exact ⟨(List.drop_suffix _ _).trans (List.drop_suffix _ _), Or.inl ⟨_, rfl⟩⟩
    · cases h
      exact ⟨((List.drop_suffix _ _).trans (List.drop_suffix _ _)).trans (List.drop_suffix _ _),
        Or.inr ⟨_, rfl⟩⟩

theorem allItems_iff {p : Text → Prop} {items : List Json} :
    AllItems p items ↔ ∀ v ∈ items, AllTexts p v := by
  induction items with
  | nil => simp [AllItems]
  | cons v rest ih => simp [AllItems, ih]

theorem allMembers_iff {p : Text → Prop} {found : List (Text × Json)} :
    AllMembers p found ↔ ∀ m ∈ found, p m.1 ∧ AllTexts p m.2 := by
  induction found with
  | nil => simp [AllMembers]
  | cons m rest ih => simp [AllMembers, ih, and_assoc]

/-- A property of documents that the reader's steps keep, read from text without surrogates. -/
structure Kept (hook : List (Text × Json) → Option Json) (P : Json → Prop) : Prop where
  null : P .null
  bool : ∀ b, P (.bool b)
  int : ∀ n, P (.int n)
  float : ∀ literal, P (.float literal)
  str : ∀ s : Text, hasPair s = false → P (.str s)
  arr : ∀ items, (∀ v ∈ items, P v) → P (.arr items)
  obj : ∀ found v, hook found = some v → (∀ m ∈ found, hasPair m.1 = false ∧ P m.2) → P v

section
variable {hook : List (Text × Json) → Option Json} {P : Json → Prop} (kept : Kept hook P)
include kept

theorem atom_some {t rest : Text} {v : Json} (h : atom t = some (v, rest)) : P v ∧ rest <:+ t := by
  unfold atom at h
  split at h
  · rename_i word found hfound
    cases h
    have known := List.mem_of_find?_eq_some hfound
    simp only [constants, List.mem_cons, List.not_mem_nil, or_false, Prod.mk.injEq] at known
    refine ⟨?_, List.drop_suffix _ _⟩
    rcases known with ⟨-, rfl⟩ | ⟨-, rfl⟩ | ⟨-, rfl⟩ | ⟨-, rfl⟩ | ⟨-, rfl⟩ | ⟨-, rfl⟩
    · exact kept.null
    · exact kept.bool true
    · exact kept.bool false
    · exact kept.float _
    · exact kept.float _
    · exact kept.float _
  · obtain ⟨suffix, ⟨n, rfl⟩ | ⟨l, rfl⟩⟩ := number_suffix h
    · exact ⟨kept.int n, suffix⟩
    · exact ⟨kept.float l, suffix⟩

omit kept in
/-- What the three readers return, at one amount of fuel. -/
structure ReadsKept (hook : List (Text × Json) → Option Json) (P : Json → Prop) (fuel : Nat) : Prop where
  value : ∀ t v rest, Scalar t → value hook fuel t = some (v, rest) → P v ∧ rest <:+ t
  items : ∀ t found rest, Scalar t → items hook fuel t = some (found, rest) →
    (∀ v ∈ found, P v) ∧ rest <:+ t
  members : ∀ t found rest, Scalar t → members hook fuel t = some (found, rest) →
    (∀ m ∈ found, hasPair m.1 = false ∧ P m.2) ∧ rest <:+ t

theorem readsKept (fuel : Nat) : ReadsKept hook P fuel := by
  induction fuel with
  | zero =>
    constructor
    all_goals
      intro _ _ _ _ h
      cases h
  | succ fuel ih =>
    constructor
    · intro t v rest plain h
      cases t with
      | nil => cases h
      | cons c tail =>
        have inside : tail <:+ c :: tail := ⟨[c], rfl⟩
        rw [value] at h
        split at h
        · obtain ⟨⟨s, after⟩, read, same⟩ := Option.map_eq_some_iff.mp h
          cases same
          obtain ⟨noPair, suffix, -⟩ := stringBody_some (plain.suffix inside) read
          exact ⟨kept.str s noPair, suffix.trans inside⟩
        · split at h
          · have blanks := skipBlanks_suffix tail
            split at h
            · cases h
            · rename_i d more split
              rw [split] at blanks
              split at h
              · obtain ⟨made, hooked, same⟩ := Option.map_eq_some_iff.mp h
                cases same
                exact ⟨kept.obj _ _ hooked (by simp),
                  (List.IsSuffix.trans ⟨[d], rfl⟩ blanks).trans inside⟩
              · obtain ⟨⟨found, after⟩, read, h⟩ := Option.bind_eq_some_iff.mp h
                obtain ⟨made, hooked, same⟩ := Option.map_eq_some_iff.mp h
                cases same
                obtain ⟨parts, suffix⟩ := ih.members _ _ _ (plain.suffix (blanks.trans inside)) read
                exact ⟨kept.obj _ _ hooked parts, (suffix.trans blanks).trans inside⟩
          · split at h
            · have blanks := skipBlanks_suffix tail
              split at h
              · cases h
              · rename_i d more split
                rw [split] at blanks
                split at h
                · cases h
                  exact ⟨kept.arr _ (by simp), (List.IsSuffix.trans ⟨[d], rfl⟩ blanks).trans inside⟩
                · obtain ⟨⟨found, after⟩, read, same⟩ := Option.map_eq_some_iff.mp h
                  cases same
                  obtain ⟨parts, suffix⟩ := ih.items _ _ _ (plain.suffix (blanks.trans inside)) read
                  exact ⟨kept.arr _ parts, (suffix.trans blanks).trans inside⟩
            · exact atom_some kept h
    · intro t found rest plain h
      rw [items] at h
      split at h
      · cases h
      · rename_i v after read
        obtain ⟨first, suffix⟩ := ih.value _ _ _ plain read
        have blanks := skipBlanks_suffix after
        split at h
        · cases h
        · rename_i c more split
          rw [split] at blanks
          have inside : more <:+ t := ((List.IsSuffix.trans ⟨[c], rfl⟩ blanks).trans suffix)
          split at h
          · cases h
            exact ⟨by simpa using first, inside⟩
          · split at h
            · obtain ⟨⟨others, final⟩, read', same⟩ := Option.map_eq_some_iff.mp h
              cases same
              have further := (skipBlanks_suffix more).trans inside
              obtain ⟨parts, suffix'⟩ := ih.items _ _ _ (plain.suffix further) read'
              exact ⟨List.forall_mem_cons.mpr ⟨first, parts⟩, suffix'.trans further⟩
            · cases h
    · intro t found rest plain h
      cases t with
      | nil => cases h
      | cons quote tail =>
        have inside : tail <:+ quote :: tail := ⟨[quote], rfl⟩
        rw [members] at h
        split at h
        · cases h
        · split at h
          · cases h
          · rename_i name after readName
            obtain ⟨noPair, suffix, -⟩ := stringBody_some (plain.suffix inside) readName
            have blanks := skipBlanks_suffix after
            split at h
            · cases h
            · rename_i colon more split
              rw [split] at blanks
              have toValue : skipBlanks more <:+ quote :: tail :=
                (skipBlanks_suffix more).trans
                  (((List.IsSuffix.trans ⟨[colon], rfl⟩ blanks).trans suffix).trans inside)
              split at h
              · cases h
              · split at h
                · cases h
                · rename_i v behind readValue
                  obtain ⟨first, suffix'⟩ := ih.value _ _ _ (plain.suffix toValue) readValue
                  have blanks' := skipBlanks_suffix behind
                  split at h
                  · cases h
                  · rename_i c last split'
                    rw [split'] at blanks'
                    have end' : last <:+ quote :: tail :=
                      ((List.IsSuffix.trans ⟨[c], rfl⟩ blanks').trans suffix').trans toValue
                    split at h
                    · cases h
                      exact ⟨by simpa using ⟨noPair, first⟩, end'⟩
                    · split at h
                      · obtain ⟨⟨others, final⟩, read', same⟩ := Option.map_eq_some_iff.mp h
                        cases same
                        have further := (skipBlanks_suffix last).trans end'
                        obtain ⟨parts, suffix''⟩ := ih.members _ _ _ (plain.suffix further) read'
                        exact ⟨List.forall_mem_cons.mpr ⟨⟨noPair, first⟩, parts⟩,
                          suffix''.trans further⟩
                      · cases h

theorem loads_kept {t : Text} {v : Json} (plain : Scalar t) (h : loads hook t = some v) : P v := by
  unfold loads at h
  split at h
  · rename_i found rest read
    split at h
    · cases h
      exact ((readsKept kept _).value _ _ _ (plain.suffix (skipBlanks_suffix t)) read).1
    · cases h
  · cases h

end

/-! ## A hook that refuses less -/

section
variable {hook lenient : List (Text × Json) → Option Json}
  (more : ∀ found v, hook found = some v → lenient found = some v)
include more

omit more in
/-- What the three readers return stays the same under the other hook. -/
structure ReadsAlike (hook lenient : List (Text × Json) → Option Json) (fuel : Nat) : Prop where
  value : ∀ t r, value hook fuel t = some r → value lenient fuel t = some r
  items : ∀ t r, items hook fuel t = some r → items lenient fuel t = some r
  members : ∀ t r, members hook fuel t = some r → members lenient fuel t = some r

theorem readsAlike (fuel : Nat) : ReadsAlike hook lenient fuel := by
  induction fuel with
  | zero =>
    constructor
    all_goals
      intro _ _ h
      cases h
  | succ fuel ih =>
    constructor
    · intro t r h
      cases t with
      | nil => cases h
      | cons c tail =>
        rw [value] at h ⊢
        split at h
        · rename_i quote
          rw [if_pos quote]
          exact h
        · rename_i quote
          rw [if_neg quote]
          split at h
          · rename_i brace
            rw [if_pos brace]
            split at h
            · cases h
            · rename_i d after _
              split at h
              · rename_i closed
                obtain ⟨made, hooked, same⟩ := Option.map_eq_some_iff.mp h
                rw [if_pos closed, more _ _ hooked, ← same]
                rfl
              · rename_i opened
                obtain ⟨⟨found, rest⟩, read, h⟩ := Option.bind_eq_some_iff.mp h
                obtain ⟨made, hooked, same⟩ := Option.map_eq_some_iff.mp h
                rw [if_neg opened, ih.members _ _ read, ← same]
                simp [more _ _ hooked]
          · rename_i brace
            rw [if_neg brace]
            split at h
            · rename_i bracket
              rw [if_pos bracket]
              split at h
              · cases h
              · rename_i d after _
                split at h
                · rename_i closed
                  rw [if_pos closed]
                  exact h
                · rename_i opened
                  obtain ⟨⟨found, rest⟩, read, same⟩ := Option.map_eq_some_iff.mp h
                  rw [if_neg opened, ih.items _ _ read, ← same]
                  rfl
            · rename_i bracket
              rw [if_neg bracket]
              exact h
    · intro t r h
      rw [items] at h ⊢
      split at h
      · cases h
      · rename_i v after read
        rw [ih.value _ _ read]
        dsimp only
        split at h
        · cases h
        · rename_i c rest _
          split at h
          · rename_i closed
            rw [if_pos closed]
            exact h
          · rename_i opened
            rw [if_neg opened]
            split at h
            · rename_i comma
              obtain ⟨⟨found, final⟩, others, same⟩ := Option.map_eq_some_iff.mp h
              rw [if_pos comma, ih.items _ _ others, ← same]
              rfl
            · cases h
    · intro t r h
      cases t with
      | nil => cases h
      | cons quote tail =>
        rw [members] at h ⊢
        split at h
        · cases h
        · rename_i opened
          rw [if_neg opened]
          split at h
          · cases h
          · rename_i name after _
            split at h
            · cases h
            · rename_i colon rest _
              split at h
              · cases h
              · rename_i separated
                rw [if_neg separated]
                split at h
                · cases h
                · rename_i v behind readValue
                  rw [ih.value _ _ readValue]
                  dsimp only
                  split at h
                  · cases h
                  · rename_i c last _
                    split at h
                    · rename_i closed
                      rw [if_pos closed]
                      exact h
                    · rename_i further
                      rw [if_neg further]
                      split at h
                      · rename_i comma
                        obtain ⟨⟨found, final⟩, others, same⟩ := Option.map_eq_some_iff.mp h
                        rw [if_pos comma, ih.members _ _ others, ← same]
                        rfl
                      · cases h

theorem loads_lenient {t : Text} {v : Json} (h : loads hook t = some v) :
    loads lenient t = some v := by
  unfold loads at h ⊢
  split at h
  · rename_i found rest read
    rw [(readsAlike more _).value _ _ read]
    exact h
  · cases h

end

theorem loads_texts {hook : List (Text × Json) → Option Json} {p : Text → Prop}
    (string : ∀ s : Text, hasPair s = false → p s)
    (keeps : ∀ found v, hook found = some v → AllMembers p found → AllTexts p v)
    {t : Text} {v : Json} (plain : Scalar t) (h : loads hook t = some v) : AllTexts p v :=
  loads_kept
    { null := trivial
      bool := fun _ => trivial
      int := fun _ => trivial
      float := fun _ => trivial
      str := string
      arr := fun _ parts => allItems_iff.mpr parts
      obj := fun found v hooked parts => keeps found v hooked
        (allMembers_iff.mpr fun m hm => ⟨string _ (parts m hm).1, (parts m hm).2⟩) } plain h

end KonnectFapi.Lib.Json

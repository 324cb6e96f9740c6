import KonnectFapi.Guarantees.ParserReading

/-!
# Characters and tokens

Where a file is written plainly, the lexer of the parser cuts it into the tokens nginx
reads: no character begins a comment, a string or a brace for one of them only.
-/

namespace KonnectFapi.Guarantees
open Lib Source.TlsMetadata
open Lib.Nginx (Item Open Reader isBlank isQuote backslash closingBrace openingBrace hash dash
  openingBracket)

/-! ## Plain files -/

/-- What the lexer takes apart inside a word where nginx goes on reading it. -/
def isStray (c : CodePoint) (rest : Text) : Bool :=
  c == hash || isQuote c || startsComment c rest || c == closingBrace ||
    isSpacePoint c && !isBlank c

def endsWord (c : CodePoint) : Bool := isBlank c || c == 59 || c == openingBrace

/-- A word that names a directive does so for both readers or for neither. -/
def plainName (py : Python) (token : Token) : Bool :=
  match token with
  | .word value => py.lower value == value || !isKnown (py.lower value) && !isKnown value
  | _ => !isKnown token.value

def plainFirst (py : Python) (o : Open) (token : Token) : Bool :=
  o.args ≠ [] || plainName py token

/-- In Lua code: no number sign, and no long bracket. -/
def plainLua (c : CodePoint) (rest : Text) : Bool :=
  c != hash && !(startsComment c rest && (Nginx.longComment rest.tail).isSome) &&
    !(c == openingBracket && (Nginx.longOpening rest).isSome)

/-- The next character means the same to both readers. -/
def plainChar (py : Python) (r : Reader) (c : CodePoint) (rest : Text) : Bool :=
  match r.mode with
  | .gap => !startsComment c rest && (!isSpacePoint c || isBlank c)
  | .comment | .closed => true
  | .word value dollared escaped =>
    !isStray c rest &&
      if escaped then Nginx.escape c == [backslash, c] && !endsWord c
      else !(dollared && c == openingBrace) && (!endsWord c || plainFirst py r.blocks (.word value))
  | .quoted mark value escaped =>
    if escaped then Nginx.escape c == [c]
    else c != mark || plainFirst py r.blocks (.string value)
  | .lua _ .code => plainLua c rest
  | .lua _ .comment | .lua _ (.quoted ..) => true
  | .lua _ (.long _) => false

def plainFrom (py : Python) (r : Reader) : Text → Bool
  | [] => (Nginx.finish r).isSome
  | c :: rest => plainChar py r c rest &&
    match Nginx.step luaBlock r c rest with
    | some next => plainFrom py next rest
    | none => false

/-- A file that nginx can read and in which every character means the same to both. -/
def plainSection (py : Python) (t : Text) : Bool := plainFrom py .start t

/-! ## The lexer -/

variable {py : Python} {start : Level} {p p' : Parser} {r r' : Reader} {mode : LexMode}
  {c : CodePoint} {rest pending : Text} {tokens more : List Token}

theorem isSpacePoint_of_blank (h : isBlank c = true) : isSpacePoint c = true := by
  simp only [isBlank, Bool.or_eq_true, beq_iff_eq] at h
  obtain ((rfl | rfl) | rfl) | rfl := h <;> decide

theorem lexStep_blank (h : isSpacePoint c = true) :
    lexStep (.plain pending) c rest = (flush pending, .plain []) := by
  simp [lexStep, h]

theorem lexStep_punct (h : c = 59 ∨ c = 123 ∨ c = 125) :
    lexStep (.plain pending) c rest = (flush pending ++ [.punct c], .plain []) := by
  rcases h with rfl | rfl | rfl <;> rfl

theorem lexStep_quote (h : isQuote c = true) :
    lexStep (.plain pending) c rest = (flush pending, .quoted c [] false) := by
  simp only [isQuote, Bool.or_eq_true, beq_iff_eq] at h
  rcases h with rfl | rfl <;> rfl

theorem lexStep_comment (h : c = hash ∨ startsComment c rest = true) :
    lexStep (.plain pending) c rest = (flush pending, .comment) := by
  rcases h with rfl | dashes
  · rfl
  · have isDash : c = 45 := by
      simp only [startsComment, Bool.and_eq_true, beq_iff_eq] at dashes
      exact dashes.1
    have noSpace : isSpacePoint 45 = false := by decide
    subst isDash
    simp [lexStep, noSpace, dashes]

/-- A character that goes into a word. -/
structure Within (c : CodePoint) (rest : Text) : Prop where
  space : isSpacePoint c = false
  hash : c ≠ hash
  comment : startsComment c rest = false
  punct : c ≠ 59 ∧ c ≠ 123 ∧ c ≠ 125
  quote : isQuote c = false

theorem lexStep_within (h : Within c rest) :
    lexStep (.plain pending) c rest = ([], .plain (pending ++ [c])) := by
  obtain ⟨space, hash, comment, ⟨semicolon, opening, closing⟩, quote⟩ := h
  simp only [isQuote, Bool.or_eq_false_iff, beq_eq_false_iff_ne] at quote
  simp [lexStep, space, hash, comment, semicolon, opening, closing, quote.1, quote.2]

theorem flush_of_ne (h : pending ≠ []) : flush pending = [.word pending] := by
  cases pending with
  | nil => exact absurd rfl h
  | cons c pending => rfl

theorem parseTokens_cons {token : Token} : parseTokens py p (token :: tokens) =
    (parseToken py p token).bind (parseTokens py · tokens) := rfl

theorem parseTokens_append : parseTokens py p (tokens ++ more) =
    (parseTokens py p tokens).bind (parseTokens py · more) := List.foldlM_append

/-! ## In step -/

/-- Both readers between two characters. -/
def Lockstep (py : Python) (start : Level) (mode : LexMode) (p : Parser) (r : Reader) : Prop :=
  match r.mode with
  | .gap | .closed => mode = .plain [] ∧ Mirrors py start p r.blocks
  | .comment => mode = .comment ∧ Mirrors py start p r.blocks
  | .word value _ escaped => Mirrors py start p r.blocks ∧ ∃ word, word ≠ [] ∧ mode = .plain word ∧
      word = value ++ if escaped then [backslash] else []
  | .quoted mark value escaped => mode = .quoted mark value escaped ∧ Mirrors py start p r.blocks
  | .lua depth .code => (∃ word, mode = .plain word) ∧ depth ≠ 0 ∧ Skips py start p r.blocks depth
  | .lua depth .comment => mode = .comment ∧ depth ≠ 0 ∧ Skips py start p r.blocks depth
  | .lua depth (.quoted mark escaped) =>
    (∃ value, mode = .quoted mark value escaped) ∧ depth ≠ 0 ∧ Skips py start p r.blocks depth
  | .lua _ (.long _) => False

theorem nameAlike_of_plain {token : Token} (word : ∀ c, token ≠ .punct c)
    (h : plainName py token = true) : NameAlike py token := by
  intro name known
  cases token with
  | punct c => exact absurd rfl (word c)
  | string value =>
    simp only [plainName, Token.value, Bool.not_eq_true'] at h
    constructor
    · intro none
      cases none
    · rintro rfl
      rw [Token.value, h] at known
      cases known
  | word value =>
    simp only [plainName, Bool.or_eq_true, beq_iff_eq, Bool.and_eq_true, Bool.not_eq_true'] at h
    rw [commandOf, Token.value, Option.some.injEq]
    rcases h with same | ⟨lowered, unknown⟩
    · rw [same]
    · constructor
      · rintro rfl
        rw [lowered] at known
        cases known
      · rintro rfl
        rw [unknown] at known
        cases known

theorem nameAlike_of_first {token : Token} {o : Open} (word : ∀ c, token ≠ .punct c)
    (h : plainFirst py o token = true) (first : o.args = []) : NameAlike py token := by
  rw [plainFirst, first] at h
  exact nameAlike_of_plain word (by simpa using h)

/-- A word and the parser's token for it. -/
theorem Mirrors.flushed {o : Open} {token : Token} (h : Mirrors py start p o)
    (word : ∀ c, token ≠ .punct c) (plain : plainFirst py o token = true)
    (parsed : parseTokens py p (token :: tokens) = some p') : ∃ next,
      parseTokens py next tokens = some p' ∧ Mirrors py start next (o.word token.value) := by
  rw [parseTokens_cons, parseToken_word h.reading word] at parsed
  exact ⟨_, parsed, h.word token fun first => nameAlike_of_first word plain first⟩

/-- A brace that opens a block of either kind. -/
theorem Mirrors.brace {o : Open} (h : Mirrors py start p o)
    (parsed : parseTokens py p [.punct 123] = some p') (valid : p'.result.invalidScope = false)
    (read : Nginx.openBlock luaBlock o = some r') : Lockstep py start (.plain []) p' r' := by
  have opened : parseToken py p (.punct 123) = some p' := by
    rw [parseTokens_cons] at parsed
    obtain ⟨next, first, rest⟩ := Option.bind_eq_some_iff.mp parsed
    cases rest
    exact first
  unfold Nginx.openBlock at read
  split at read
  · cases read
  rename_i name args all
  have head : o.args.head? = some name := by rw [all]; rfl
  cases read
  split
  · rename_i isLua
    exact ⟨⟨[], rfl⟩, by simp, h.lua head isLua opened⟩
  · rename_i notLua
    refine ⟨rfl, h.opened (fun other same => ?_) opened valid⟩
    obtain rfl := Option.some.inj (head.symm.trans same)
    simpa using notLua

theorem Mirrors.ended {o o' : Open} (h : Mirrors py start p o)
    (parsed : parseTokens py p [.punct 59] = some p') (valid : p'.result.invalidScope = false)
    (read : o.statement = some o') : Mirrors py start p' o' := by
  rw [parseTokens_cons] at parsed
  obtain ⟨next, first, rest⟩ := Option.bind_eq_some_iff.mp parsed
  cases rest
  exact h.semicolon first valid read

variable {blocks : Open}

theorem Lockstep.gap (h : Mirrors py start p blocks)
    (plain : plainChar py ⟨.gap, blocks⟩ c rest = true)
    (read : Nginx.step luaBlock ⟨.gap, blocks⟩ c rest = some r')
    (parsed : parseTokens py p (lexStep (.plain []) c rest).1 = some p')
    (valid : p'.result.invalidScope = false) :
    Lockstep py start (lexStep (.plain []) c rest).2 p' r' := by
  simp only [plainChar, Bool.and_eq_true, Bool.not_eq_true', Bool.or_eq_true] at plain
  obtain ⟨noComment, blank⟩ := plain
  unfold Nginx.step at read
  dsimp only at read
  split at read
  · rename_i isBlank
    rw [lexStep_blank (isSpacePoint_of_blank isBlank)] at parsed ⊢
    cases parsed
    cases read
    exact ⟨rfl, h⟩
  rename_i noBlank
  have noSpace : isSpacePoint c = false := blank.resolve_right noBlank
  split at read
  · rename_i isEnd
    rw [lexStep_punct (.inl isEnd)] at parsed ⊢
    obtain ⟨next, statement, rfl⟩ := Option.map_eq_some_iff.mp read
    subst isEnd
    exact ⟨rfl, h.ended parsed valid statement⟩
  split at read
  · rename_i isOpening
    rw [lexStep_punct (.inr (.inl isOpening))] at parsed ⊢
    subst isOpening
    exact h.brace parsed valid read
  split at read
  · rename_i isClosing
    rw [lexStep_punct (.inr (.inr isClosing))] at parsed ⊢
    obtain ⟨next, left, rfl⟩ := Option.map_eq_some_iff.mp read
    subst isClosing
    rw [flush, List.nil_append, parseTokens_cons] at parsed
    obtain ⟨next', first, done⟩ := Option.bind_eq_some_iff.mp parsed
    cases done
    exact ⟨rfl, h.closed first left⟩
  split at read
  · rename_i isHash
    rw [lexStep_comment (.inl isHash)] at parsed ⊢
    cases parsed
    cases read
    exact ⟨rfl, h⟩
  rename_i noEnd noOpening noClosing noHash
  split at read
  · rename_i isBackslash
    subst isBackslash
    rw [lexStep_within ⟨noSpace, noHash, noComment, ⟨noEnd, noOpening, noClosing⟩, rfl⟩] at parsed ⊢
    cases parsed
    cases read
    exact ⟨h, _, by simp, rfl, rfl⟩
  split at read
  · rename_i quote
    rw [lexStep_quote quote] at parsed ⊢
    cases parsed
    cases read
    exact ⟨rfl, h⟩
  · rename_i noQuote
    rw [lexStep_within ⟨noSpace, noHash, noComment, ⟨noEnd, noOpening, noClosing⟩, by simpa using noQuote⟩]
      at parsed ⊢
    cases parsed
    cases read
    exact ⟨h, _, by simp, rfl, rfl⟩

theorem Lockstep.closed (h : Mirrors py start p blocks)
    (read : Nginx.step luaBlock ⟨.closed, blocks⟩ c rest = some r')
    (parsed : parseTokens py p (lexStep (.plain []) c rest).1 = some p')
    (valid : p'.result.invalidScope = false) :
    Lockstep py start (lexStep (.plain []) c rest).2 p' r' := by
  unfold Nginx.step at read
  dsimp only at read
  split at read
  · rename_i isBlank
    rw [lexStep_blank (isSpacePoint_of_blank isBlank)] at parsed ⊢
    cases parsed
    cases read
    exact ⟨rfl, h⟩
  split at read
  · rename_i isEnd
    rw [lexStep_punct (.inl isEnd)] at parsed ⊢
    obtain ⟨next, statement, rfl⟩ := Option.map_eq_some_iff.mp read
    subst isEnd
    exact ⟨rfl, h.ended parsed valid statement⟩
  split at read
  · rename_i isOpening
    rw [lexStep_punct (.inr (.inl isOpening))] at parsed ⊢
    subst isOpening
    exact h.brace parsed valid read
  split at read
  · rename_i isParen
    subst isParen
    rw [lexStep_within ⟨by decide, by decide, rfl, by decide, rfl⟩] at parsed ⊢
    cases parsed
    cases read
    exact ⟨h, _, by simp, rfl, rfl⟩
  · cases read

theorem Lockstep.comment (h : Mirrors py start p blocks)
    (read : Nginx.step luaBlock ⟨.comment, blocks⟩ c rest = some r')
    (parsed : parseTokens py p (lexStep .comment c rest).1 = some p') :
    Lockstep py start (lexStep .comment c rest).2 p' r' := by
  unfold Nginx.step at read
  cases parsed
  cases read
  unfold lexStep
  by_cases isNewline : c = 10
  · simp only [isNewline, if_true]
    exact ⟨rfl, h⟩
  · simp only [isNewline, if_false]
    exact ⟨rfl, h⟩

/-- Inside a word nothing stands that only one reader sees. -/
theorem within_of_plain (stray : isStray c rest = false) (noBlank : isBlank c = false)
    (noEnd : c ≠ 59) (noOpening : c ≠ openingBrace) : Within c rest := by
  simp only [isStray, Bool.or_eq_false_iff, Bool.and_eq_false_iff, beq_eq_false_iff_ne,
    Bool.not_eq_false'] at stray
  obtain ⟨⟨⟨⟨noHash, noQuote⟩, noComment⟩, noClosing⟩, blank⟩ := stray
  refine ⟨blank.resolve_right ?_, noHash, noComment, ⟨noEnd, noOpening, noClosing⟩, noQuote⟩
  rw [noBlank]
  exact Bool.false_ne_true

theorem Lockstep.escapedChar {value : Text} (h : Mirrors py start p blocks) {dollared : Bool}
    (whole : pending = value ++ [backslash])
    (plain : plainChar py ⟨.word value dollared true, blocks⟩ c rest = true)
    (read : Nginx.step luaBlock ⟨.word value dollared true, blocks⟩ c rest = some r')
    (parsed : parseTokens py p (lexStep (.plain pending) c rest).1 = some p') :
    Lockstep py start (lexStep (.plain pending) c rest).2 p' r' := by
  simp only [plainChar, Bool.and_eq_true, Bool.not_eq_true', if_true, beq_iff_eq, endsWord,
    Bool.or_eq_false_iff, beq_eq_false_iff_ne] at plain
  obtain ⟨stray, kept, ⟨noBlank, noEnd⟩, noOpening⟩ := plain
  rw [lexStep_within (within_of_plain stray noBlank noEnd noOpening)] at parsed ⊢
  cases parsed
  cases read
  exact ⟨h, _, by simp, rfl, by simp [whole, kept]⟩

theorem Lockstep.word {value : Text} (h : Mirrors py start p blocks) {dollared : Bool}
    (nonempty : value ≠ [])
    (plain : plainChar py ⟨.word value dollared false, blocks⟩ c rest = true)
    (read : Nginx.step luaBlock ⟨.word value dollared false, blocks⟩ c rest = some r')
    (parsed : parseTokens py p (lexStep (.plain value) c rest).1 = some p')
    (valid : p'.result.invalidScope = false) :
    Lockstep py start (lexStep (.plain value) c rest).2 p' r' := by
  simp only [plainChar, Bool.and_eq_true, Bool.not_eq_true', Bool.false_eq_true, if_false,
    Bool.or_eq_true] at plain
  obtain ⟨stray, noVariable, first⟩ := plain
  have named : endsWord c = true → plainFirst py blocks (.word value) = true := by
    intro ends
    rw [ends] at first
    exact first.resolve_left (by simp)
  unfold Nginx.step at read
  dsimp only at read
  rw [if_neg Bool.false_ne_true] at read
  split at read
  · rename_i variable'
    simp [variable'.1, variable'.2] at noVariable
  split at read
  · rename_i isBackslash
    subst isBackslash
    rw [lexStep_within (within_of_plain stray (by decide) (by decide) (by decide))] at parsed ⊢
    cases parsed
    cases read
    exact ⟨h, _, by simp, rfl, rfl⟩
  split at read
  · rename_i isBlank
    rw [lexStep_blank (isSpacePoint_of_blank isBlank), flush_of_ne nonempty] at parsed
    obtain ⟨next, done, after⟩ := h.flushed (fun c => by simp) (named (by simp [endsWord, isBlank])) parsed
    cases done
    cases read
    rw [lexStep_blank (isSpacePoint_of_blank isBlank)]
    exact ⟨rfl, after⟩
  rename_i noBlank
  split at read
  · rename_i isEnd
    subst isEnd
    rw [lexStep_punct (.inl rfl), flush_of_ne nonempty] at parsed
    obtain ⟨next, done, after⟩ := h.flushed (fun c => by simp) (named (by decide)) parsed
    obtain ⟨o, statement, rfl⟩ := Option.map_eq_some_iff.mp read
    rw [lexStep_punct (.inl rfl)]
    exact ⟨rfl, after.ended done valid statement⟩
  rename_i noEnd
  split at read
  · rename_i isOpening
    subst isOpening
    rw [lexStep_punct (.inr (.inl rfl)), flush_of_ne nonempty] at parsed
    obtain ⟨next, done, after⟩ := h.flushed (fun c => by simp) (named (by decide)) parsed
    rw [lexStep_punct (.inr (.inl rfl))]
    exact after.brace done valid read
  · rename_i noOpening
    rw [lexStep_within (within_of_plain stray (by simpa using noBlank) noEnd noOpening)] at parsed ⊢
    cases parsed
    cases read
    exact ⟨h, _, by simp, rfl, by simp⟩

theorem Lockstep.quoted {mark : CodePoint} {value : Text} {escaped : Bool}
    (h : Mirrors py start p blocks)
    (plain : plainChar py ⟨.quoted mark value escaped, blocks⟩ c rest = true)
    (read : Nginx.step luaBlock ⟨.quoted mark value escaped, blocks⟩ c rest = some r')
    (parsed : parseTokens py p (lexStep (.quoted mark value escaped) c rest).1 = some p') :
    Lockstep py start (lexStep (.quoted mark value escaped) c rest).2 p' r' := by
  unfold plainChar at plain
  unfold Nginx.step at read
  unfold lexStep at parsed ⊢
  dsimp only at *
  cases escaped with
  | true =>
    simp only [if_true, beq_iff_eq] at plain read parsed ⊢
    rw [plain] at read
    cases parsed
    cases read
    exact ⟨rfl, h⟩
  | false =>
    simp only [Bool.false_eq_true, if_false] at plain read parsed ⊢
    by_cases isBackslash : c = 92
    · rw [if_pos isBackslash] at parsed read ⊢
      cases parsed
      cases read
      exact ⟨rfl, h⟩
    rw [if_neg isBackslash] at parsed read ⊢
    by_cases isMark : c = mark
    · rw [if_pos isMark] at parsed read ⊢
      have first : plainFirst py blocks (.string value) = true := by simpa [isMark] using plain
      obtain ⟨next, done, after⟩ := h.flushed (fun c => by simp) first parsed
      cases done
      cases read
      exact ⟨rfl, after⟩
    · rw [if_neg isMark] at parsed read ⊢
      cases parsed
      cases read
      exact ⟨rfl, h⟩

/-! ## Lua code -/

variable {depth : Nat}

theorem Skips.flushed (h : Skips py start p blocks depth) :
    parseTokens py p (flush pending ++ tokens) = parseTokens py p tokens := by
  cases pending with
  | nil => rfl
  | cons c pending =>
    rw [flush_of_ne (List.cons_ne_nil c pending), List.singleton_append, parseTokens_cons,
      h.other (by simp) (by simp)]
    rfl

theorem Skips.flushedAll (h : Skips py start p blocks depth) :
    parseTokens py p (flush pending) = some p := by
  rw [← List.append_nil (flush pending), h.flushed]
  rfl

theorem Skips.brace (h : Skips py start p blocks depth) {token : Token}
    (parsed : parseTokens py p (flush pending ++ [token]) = some p') :
    parseToken py p token = some p' := by
  rw [h.flushed, parseTokens_cons] at parsed
  obtain ⟨next, first, done⟩ := Option.bind_eq_some_iff.mp parsed
  cases done
  exact first

/-- Any other character of Lua code leaves the lexer between words or in one. -/
theorem Skips.luaChar (h : Skips py start p blocks depth) (pending : Text) (noHash : c ≠ hash)
    (noComment : startsComment c rest = false) (noQuote : isQuote c = false)
    (noOpening : c ≠ openingBrace) (noClosing : c ≠ closingBrace) :
    parseTokens py p (lexStep (.plain pending) c rest).1 = some p ∧
      ∃ pending', (lexStep (.plain pending) c rest).2 = .plain pending' := by
  by_cases space : isSpacePoint c = true
  · rw [lexStep_blank space]
    exact ⟨h.flushedAll, _, rfl⟩
  by_cases isEnd : c = 59
  · rw [lexStep_punct (.inl isEnd), isEnd, h.flushed, parseTokens_cons, h.other (by decide) (by decide)]
    exact ⟨rfl, _, rfl⟩
  · rw [lexStep_within ⟨by simpa using space, noHash, noComment, ⟨isEnd, noOpening, noClosing⟩, noQuote⟩]
    exact ⟨rfl, _, rfl⟩

theorem startsComment_iff : startsComment c rest = true ↔ c = dash ∧ rest.head? = some dash := by
  simp [startsComment]

/-- How Lua code goes on where no long bracket opens. -/
theorem luaStep_code (plain : plainLua c rest = true) : Nginx.luaStep .code c rest =
    if isQuote c then .quoted c false else if startsComment c rest then .comment else .code := by
  simp only [plainLua, Bool.and_eq_true, bne_iff_ne, Bool.not_eq_true', Bool.and_eq_false_iff,
    Option.isSome_eq_false_iff, Option.isNone_iff_eq_none, beq_eq_false_iff_ne] at plain
  obtain ⟨⟨-, shortComment⟩, shortString⟩ := plain
  unfold Nginx.luaStep Nginx.luaCode
  dsimp only
  split
  · rfl
  by_cases isComment : startsComment c rest = true
  · have short := shortComment.resolve_left (by simp [isComment])
    rw [if_pos (startsComment_iff.mp isComment), if_pos isComment, short]
  · rw [if_neg fun both => isComment (startsComment_iff.mpr both), if_neg isComment]
    split
    · rename_i opening
      rw [shortString.resolve_left fun no => no opening]
    · rfl

theorem Lockstep.luaCode (h : Skips py start p blocks depth) (positive : depth ≠ 0)
    (plain : plainLua c rest = true)
    (read : Nginx.step luaBlock ⟨.lua depth .code, blocks⟩ c rest = some r')
    (parsed : parseTokens py p (lexStep (.plain pending) c rest).1 = some p') :
    Lockstep py start (lexStep (.plain pending) c rest).2 p' r' := by
  have noHash : c ≠ hash := by
    simp only [plainLua, Bool.and_eq_true, bne_iff_ne] at plain
    exact plain.1.1
  unfold Nginx.step at read
  dsimp only at read
  split at read
  · rename_i isOpening
    obtain ⟨-, rfl⟩ := isOpening
    rw [lexStep_punct (.inr (.inl rfl))] at parsed ⊢
    cases read
    exact ⟨⟨_, rfl⟩, by simp, h.opening (h.brace parsed)⟩
  rename_i noOpening
  split at read
  · rename_i isClosing
    obtain ⟨-, rfl⟩ := isClosing
    rw [lexStep_punct (.inr (.inr rfl))] at parsed ⊢
    split at read
    · rename_i last
      subst last
      cases read
      exact ⟨rfl, h.closed (h.brace parsed)⟩
    · rename_i inside
      cases read
      exact ⟨⟨_, rfl⟩, by omega, h.closing inside positive (h.brace parsed)⟩
  rename_i noClosing
  simp only [true_and] at noOpening noClosing
  rw [luaStep_code plain] at read
  cases read
  by_cases quote : isQuote c = true
  · rw [if_pos quote]
    rw [lexStep_quote quote, h.flushedAll] at parsed
    cases parsed
    rw [lexStep_quote quote]
    exact ⟨⟨_, rfl⟩, positive, h⟩
  rw [if_neg quote]
  by_cases comment : startsComment c rest = true
  · rw [if_pos comment]
    rw [lexStep_comment (.inr comment), h.flushedAll] at parsed
    cases parsed
    rw [lexStep_comment (.inr comment)]
    exact ⟨rfl, positive, h⟩
  rw [if_neg comment]
  obtain ⟨same, next⟩ := h.luaChar pending noHash (by simpa using comment)
    (by simpa using quote) noOpening noClosing
  rw [same] at parsed
  cases parsed
  exact ⟨next, positive, h⟩

theorem Lockstep.luaComment (h : Skips py start p blocks depth) (positive : depth ≠ 0)
    (read : Nginx.step luaBlock ⟨.lua depth .comment, blocks⟩ c rest = some r')
    (parsed : parseTokens py p (lexStep .comment c rest).1 = some p') :
    Lockstep py start (lexStep .comment c rest).2 p' r' := by
  unfold Nginx.step at read
  cases parsed
  simp only [reduceCtorEq, false_and, if_false, Option.some.injEq] at read
  subst read
  unfold lexStep Nginx.luaStep
  by_cases isNewline : c = 10
  · simp only [isNewline, if_true]
    exact ⟨⟨_, rfl⟩, positive, h⟩
  · simp only [isNewline, if_false]
    exact ⟨rfl, positive, h⟩

theorem Lockstep.luaQuoted {mark : CodePoint} {value : Text} {escaped : Bool}
    (h : Skips py start p blocks depth) (positive : depth ≠ 0)
    (read : Nginx.step luaBlock ⟨.lua depth (.quoted mark escaped), blocks⟩ c rest = some r')
    (parsed : parseTokens py p (lexStep (.quoted mark value escaped) c rest).1 = some p') :
    Lockstep py start (lexStep (.quoted mark value escaped) c rest).2 p' r' := by
  unfold Nginx.step at read
  simp only [reduceCtorEq, false_and, if_false, Option.some.injEq] at read
  subst read
  unfold lexStep at parsed ⊢
  unfold Nginx.luaStep
  cases escaped with
  | true =>
    cases parsed
    exact ⟨⟨_, rfl⟩, positive, h⟩
  | false =>
    simp only [Bool.false_eq_true, if_false] at parsed ⊢
    by_cases isBackslash : c = 92
    · rw [if_pos isBackslash] at parsed ⊢
      cases parsed
      rw [if_pos isBackslash]
      exact ⟨⟨_, rfl⟩, positive, h⟩
    rw [if_neg isBackslash] at parsed ⊢
    rw [if_neg isBackslash]
    by_cases isMark : c = mark
    · rw [if_pos isMark] at parsed ⊢
      rw [parseTokens_cons, h.other (by simp) (by simp)] at parsed
      cases parsed
      rw [if_pos isMark]
      exact ⟨⟨_, rfl⟩, positive, h⟩
    · rw [if_neg isMark] at parsed ⊢
      cases parsed
      rw [if_neg isMark]
      exact ⟨⟨_, rfl⟩, positive, h⟩

/-! ## Whole files -/

/-- One character keeps the readers in step. -/
theorem Lockstep.step (h : Lockstep py start mode p r) (plain : plainChar py r c rest = true)
    (read : Nginx.step luaBlock r c rest = some r')
    (parsed : parseTokens py p (lexStep mode c rest).1 = some p')
    (valid : p'.result.invalidScope = false) :
    Lockstep py start (lexStep mode c rest).2 p' r' := by
  obtain ⟨reading, blocks⟩ := r
  cases reading with
  | gap =>
    obtain ⟨rfl, mirrors⟩ := h
    exact .gap mirrors plain read parsed valid
  | comment =>
    obtain ⟨rfl, mirrors⟩ := h
    exact .comment mirrors read parsed
  | word value dollared escaped =>
    obtain ⟨mirrors, pending, nonempty, rfl, whole⟩ := h
    cases escaped with
    | true => exact .escapedChar mirrors whole plain read parsed
    | false =>
      rw [if_neg Bool.false_ne_true, List.append_nil] at whole
      subst whole
      exact .word mirrors nonempty plain read parsed valid
  | quoted mark value escaped =>
    obtain ⟨rfl, mirrors⟩ := h
    exact .quoted mirrors plain read parsed
  | closed =>
    obtain ⟨rfl, mirrors⟩ := h
    exact .closed mirrors read parsed valid
  | lua depth reading =>
    cases reading with
    | code =>
      obtain ⟨⟨pending, rfl⟩, positive, skips⟩ := h
      exact .luaCode skips positive plain read parsed
    | comment =>
      obtain ⟨rfl, positive, skips⟩ := h
      exact .luaComment skips positive read parsed
    | quoted mark escaped =>
      obtain ⟨⟨value, rfl⟩, positive, skips⟩ := h
      exact .luaQuoted skips positive read parsed
    | long level => exact h.elim

/-- The end of a file. -/
theorem Lockstep.finish {items : List Item} (h : Lockstep py start mode p r)
    (lexed : lexFrom mode [] = some tokens) (parsed : parseTokens py p tokens = some p')
    (read : Nginx.finish r = some items) : Counts start p'.result [] items := by
  obtain ⟨reading, ⟨args, here, outer⟩⟩ := r
  unfold Nginx.finish at read
  split at read
  · rename_i ended
    obtain ⟨outside, noArgs, noBlocks⟩ := ended
    obtain rfl : outer = [] := noBlocks
    cases read
    rcases outside with gap | comment
    · obtain rfl : reading = .gap := gap
      obtain ⟨rfl, mirrors⟩ := h
      cases lexed
      cases parsed
      exact mirrors.counts
    · obtain rfl : reading = .comment := comment
      obtain ⟨rfl, mirrors⟩ := h
      cases lexed
      cases parsed
      exact mirrors.counts
  · cases read

/-- All characters of a file, one after the other. -/
theorem Lockstep.run {t : Text} (h : Lockstep py start mode p r) (plain : plainFrom py r t = true)
    (lexed : lexFrom mode t = some tokens) (parsed : parseTokens py p tokens = some p')
    (valid : p'.result.invalidScope = false) :
    ∃ items, Nginx.readFrom luaBlock r t = some items ∧ Counts start p'.result [] items := by
  induction t generalizing mode p r tokens with
  | nil =>
    obtain ⟨items, read⟩ := Option.isSome_iff_exists.mp plain
    exact ⟨items, read, h.finish lexed parsed read⟩
  | cons c rest ih =>
    rw [plainFrom, Bool.and_eq_true] at plain
    obtain ⟨here, later⟩ := plain
    split at later
    · rename_i next read
      obtain ⟨others, lexedLater, rfl⟩ := Option.map_eq_some_iff.mp lexed
      rw [parseTokens_append] at parsed
      obtain ⟨between, first, parsedLater⟩ := Option.bind_eq_some_iff.mp parsed
      have validHere := parseTokens_valid parsedLater valid
      obtain ⟨items, readLater, counts⟩ :=
        ih (h.step here read first validHere) later lexedLater parsedLater
      refine ⟨items, ?_, counts⟩
      rw [Nginx.readFrom, read]
      exact readLater
    · cases later

/-- In a plain file the parser counts, where its scopes are valid, what nginx reads. -/
theorem section_read {t : Text} {scope : Scope} {result : Section}
    (outside : levelOfScope scope ≠ .server) (plain : plainSection py t = true)
    (parsed : parseSection py t scope = some result) (valid : result.invalidScope = false) :
    ∃ items, Nginx.read luaBlock t = some items ∧ Counts (levelOfScope scope) result [] items := by
  unfold parseSection at parsed
  obtain ⟨tokens, lexed, parsed⟩ := Option.bind_eq_some_iff.mp parsed
  obtain ⟨p, ran, finished⟩ := Option.bind_eq_some_iff.mp parsed
  unfold lexNginx at lexed
  obtain ⟨lexed, -⟩ := Option.filter_eq_some_iff.mp lexed
  unfold Parser.finished at finished
  split at finished
  · cases finished
    exact Lockstep.run ⟨rfl, .initial py scope outside⟩ plain lexed ran valid
  · cases finished

end KonnectFapi.Guarantees

import KonnectFapi.Guarantees.ScopeReading

/-!
# Tokens and directives

The parser and nginx go through the same tokens: each word, each end of a statement and
each brace changes both in step, and a block of Lua code is passed over by both.
-/

namespace KonnectFapi.Guarantees
open Lib Source.TlsMetadata
open Lib.Nginx (Item Open)

variable {start : Level} {outer : List (List Item × List Text)} {items : List Item}
  {args : List Text} {command : Text} {tokens : List Token} {r : Section} {scope : Scope}

/-! ## Blocks -/

theorem block_names_apart : text "http" ≠ text "stream" ∧ text "http" ≠ text "events" := by
  decide +kernel

/-- A block that leaves the scopes valid has the scope of its context. -/
theorem child_level (read : Says (some command) tokens args)
    (valid : (child scope command tokens r).1.invalidScope = false) :
    levelOfScope (child scope command tokens r).2.scope = inner (levelOfScope scope) args := by
  have http := read.names (text "http") (by simp [isKnown])
  have server := read.names (text "server") (by simp [isKnown])
  rw [Option.some.injEq] at http server
  have below : ∀ {scope : Scope}, scope ≠ .main → scope ≠ .http →
      inner (levelOfScope scope) args = .elsewhere := by
    intro scope notMain notHttp
    cases scope with
    | main => exact absurd rfl notMain
    | http => exact absurd rfl notHttp
    | _ => exact inner_below (by simp [levelOfScope])
  unfold child at valid ⊢
  split at valid
  · rename_i isHttp
    obtain ⟨rfl, isHttp, alone⟩ := isHttp
    rw [if_pos ⟨rfl, isHttp, alone⟩]
    exact (inner_http (http.mp isHttp)).symm
  rename_i notAlone
  rw [if_neg notAlone]
  split at valid
  · rename_i isStream
    obtain ⟨rfl, isStream⟩ := isStream
    rw [if_pos ⟨rfl, isStream⟩]
    refine (inner_main_of_ne fun isHttp => ?_).symm
    exact block_names_apart.1 ((http.mpr isHttp).symm.trans isStream)
  rename_i notStream
  rw [if_neg notStream]
  split at valid
  · rename_i isServer
    obtain ⟨rfl, isServer⟩ := isServer
    rw [if_pos ⟨rfl, isServer⟩]
    exact (inner_server (server.mp isServer)).symm
  rename_i notServer
  rw [if_neg notServer]
  split at valid
  · rename_i isServer
    rw [if_pos isServer, below (by simp [isServer.1]) (by simp [isServer.1])]
    rfl
  rename_i notStreamServer
  rw [if_neg notStreamServer]
  split at valid
  · rename_i isEvents
    obtain ⟨rfl, isEvents⟩ := isEvents
    rw [if_pos ⟨rfl, isEvents⟩]
    refine (inner_main_of_ne fun isHttp => ?_).symm
    exact block_names_apart.2 ((http.mpr isHttp).symm.trans isEvents)
  rename_i notEvents
  rw [if_neg notEvents]
  split at valid
  · cases valid
  rename_i noContext
  rw [if_neg noContext]
  cases scope with
  | main => exact (inner_main_of_ne fun isHttp => noContext (.inl (http.mpr isHttp))).symm
  | http =>
    exact (inner_http_of_ne fun isServer => noContext (.inr (.inr (server.mpr isServer)))).symm
  | _ => exact (below (by simp) (by simp)).symm

/-- What a header that leaves the scopes valid does to the result. -/
theorem child_cases (valid : (child scope command tokens r).1.invalidScope = false) :
    child scope command tokens r = ({ r with httpBlocks := r.httpBlocks + 1 }, ⟨.http, none⟩) ∨
    scope = .http ∧ child scope command tokens r =
      ({ r with httpServers := r.httpServers ++ [{}] }, ⟨.server, some r.httpServers.length⟩) ∨
    ∃ inside, inside ≠ .http ∧ inside ≠ .server ∧
      child scope command tokens r = (r, ⟨inside, none⟩) := by
  unfold child at valid ⊢
  split
  · exact .inl rfl
  rename_i notAlone
  rw [if_neg notAlone] at valid
  split
  · exact .inr (.inr ⟨.stream, by simp⟩)
  rename_i notStream
  rw [if_neg notStream] at valid
  split
  · rename_i isServer
    exact .inr (.inl ⟨isServer.1, rfl⟩)
  rename_i notServer
  rw [if_neg notServer] at valid
  split
  · exact .inr (.inr ⟨.streamServer, by simp⟩)
  rename_i notStreamServer
  rw [if_neg notStreamServer] at valid
  split
  · exact .inr (.inr ⟨.other, by simp⟩)
  rename_i notEvents
  rw [if_neg notEvents] at valid
  split
  · rename_i context
    rw [if_pos context] at valid
    cases valid
  · exact .inr (.inr ⟨.other, by simp⟩)

theorem serverRead_empty : ServerRead {} ⟨[], [], []⟩ := ⟨.nil, rfl, rfl⟩

def blockCounted (r : Section) : Section := { r with blockCount := r.blockCount + 1 }

/-- A block that opens has read nothing yet. -/
theorem Counts.entered (h : Counts start r outer items) (header : List Text)
    (valid : (child scope command tokens (blockCounted r)).1.invalidScope = false)
    (same : levelOfScope (child scope command tokens (blockCounted r)).2.scope =
      levelAt start ((items, header) :: outer)) :
    Counts start (child scope command tokens (blockCounted r)).1 ((items, header) :: outer) [] := by
  have more := h.counted
  have opened : ∀ {β : Type} (f : Level → List Item → List β),
      collect f start ((items, header) :: outer) [] =
        collect f start outer items ++ f (levelAt start ((items, header) :: outer)) [] :=
    fun f => rfl
  obtain cases | ⟨-, cases⟩ | ⟨inside, notHttp, notServer, cases⟩ := child_cases valid <;>
    rw [cases] at same ⊢
  · constructor <;> simp only [opened, ← same, found_nil, serversOf_nil, httpsOf_nil, List.append_nil]
    · exact h.protocols
    · exact h.commands
    · exact h.includes
    · simpa [levelOfScope, blockCounted] using h.servers
    · have https := h.https
      simp [levelOfScope, blockCounted] at https ⊢
      omega
    · simp [blockCounted]
      omega
  · constructor <;> simp only [opened, ← same, found_nil, serversOf_nil, httpsOf_nil, List.append_nil]
    · exact h.protocols
    · exact h.commands
    · exact h.includes
    · exact List.rel_append h.servers (.cons serverRead_empty .nil)
    · simpa [levelOfScope, blockCounted] using h.https
    · exact Nat.le_succ_of_le more
  · have levels : levelOfScope inside ≠ .http ∧ levelOfScope inside ≠ .server :=
      ⟨fun isHttp => notHttp (levelOfScope_eq_http.mp isHttp),
        fun isServer => notServer (levelOfScope_eq_server.mp isServer)⟩
    constructor <;> simp only [opened, ← same, found_nil, serversOf_nil, httpsOf_nil, List.append_nil,
      levels, if_false]
    · exact h.protocols
    · exact h.commands
    · exact h.includes
    · exact h.servers
    · exact h.https
    · exact Nat.le_succ_of_le more

/-! ## Tokens -/

/-- The parser between two tokens, and how far nginx has read. -/
structure Mirrors (py : Python) (start : Level) (p : Parser) (o : Open) : Prop where
  reading : p.skipping = none
  said : Says (commandName py p.statement) p.statement o.args
  frames : (p.frame :: p.outer).map (levelOfScope ·.scope) = levels start o.outer
  current : ∀ frame ∈ p.frame :: p.outer, frame.scope = .server →
    ∃ i, frame.server = some i ∧ p.result.httpServers.length = i + 1
  counts : Counts start p.result o.outer o.items

/-- The parser inside a block of Lua code, and what nginx has after it. -/
structure Skips (py : Python) (start : Level) (p : Parser) (o : Open) (depth : Nat) : Prop where
  skipping : p.skipping = some depth
  after : Mirrors py start { p with skipping := none } o.luaBlock

variable {py : Python} {p p' : Parser} {o o' : Open}

theorem levels_head : levels start outer = levelAt start outer :: (levels start outer).tail := by
  cases outer <;> rfl

theorem Mirrors.here (h : Mirrors py start p o) :
    levelOfScope p.frame.scope = levelAt start o.outer := by
  have frames := h.frames
  rw [levels_head] at frames
  exact (List.cons.inj frames).1

theorem outer_of_main (h : levelAt start outer = .main) : outer = [] := by
  cases outer with
  | nil => rfl
  | cons block outer =>
    obtain ⟨before, header⟩ := block
    rw [levelAt, inner] at h
    split_ifs at h

/-- Around a block of directives for all servers there is no server. -/
theorem levels_of_http (h : levelAt start outer = .http) : .server ∉ levels start outer := by
  cases outer with
  | nil =>
    obtain rfl : start = .http := h
    simp [levels]
  | cons block outer =>
    obtain ⟨before, header⟩ := block
    have main : levelAt start outer = .main := by
      rw [levelAt, inner] at h
      split_ifs at h with isMain
      exact isMain.1
    obtain rfl := outer_of_main main
    obtain rfl : start = .main := main
    simp [levels, h]

theorem Says.nil : Says none [] [] := ⟨rfl, fun name known => by simp⟩

theorem commandName_nil : commandName py [] = none := rfl

/-- The command that a word gives as the first of a statement. -/
def commandOf (py : Python) : Token → Option Text
  | .word value => some (py.lower value)
  | _ => none

/-- A word reads alike where it can be a name: nginx compares names as they stand. -/
def NameAlike (py : Python) (token : Token) : Prop :=
  ∀ name, isKnown name = true → (commandOf py token = some name ↔ token.value = name)

theorem commandName_append (token : Token) (h : tokens ≠ []) :
    commandName py (tokens ++ [token]) = commandName py tokens := by
  cases tokens with
  | nil => exact absurd rfl h
  | cons first rest => cases first <;> rfl

theorem Says.word (h : Says (commandName py tokens) tokens args) (token : Token)
    (alike : args = [] → NameAlike py token) :
    Says (commandName py (tokens ++ [token])) (tokens ++ [token]) (args ++ [token.value]) := by
  have values : (tokens ++ [token]).map Token.value = args ++ [token.value] := by
    rw [List.map_append, h.values, List.map_singleton]
  refine ⟨values, fun name known => ?_⟩
  cases tokens with
  | nil =>
    obtain rfl : args = [] := h.values.symm
    have first := alike rfl name known
    cases token <;> simpa [commandName, commandOf] using first
  | cons first rest =>
    rw [commandName_append token (by simp), h.names name known]
    have some := h.values
    cases args with
    | nil => cases some
    | cons head args => rfl

theorem Mirrors.word (h : Mirrors py start p o) (token : Token)
    (alike : o.args = [] → NameAlike py token) :
    Mirrors py start { p with statement := p.statement ++ [token] } (o.word token.value) :=
  ⟨h.reading, h.said.word token alike, h.frames, h.current, h.counts⟩

theorem parseToken_word {token : Token} (h : p.skipping = none) (word : ∀ c, token ≠ .punct c) :
    parseToken py p token = some { p with statement := p.statement ++ [token] } := by
  unfold parseToken
  rw [h]
  cases token with
  | punct c => exact absurd rfl (word c)
  | string value => rfl
  | word value => rfl

theorem parseToken_semicolon (h : p.skipping = none) : parseToken py p (.punct 59) = some { p with
    result := settle (commandName py p.statement) p.statement p.frame p.result
    statement := [] } := by
  unfold parseToken
  rw [h]
  rfl

theorem parseToken_opening (h : p.skipping = none) :
    parseToken py p (.punct 123) = openBlock py p := by
  unfold parseToken
  rw [h]
  rfl

theorem parseToken_closing (h : p.skipping = none) :
    parseToken py p (.punct 125) = closeBlock p := by
  unfold parseToken
  rw [h]
  rfl

theorem settle_servers_length {command : Option Text} {statement : List Token} {frame : Frame} :
    (settle command statement frame r).httpServers.length = r.httpServers.length := by
  rw [settle_httpServers]
  split
  · exact List.length_modify ..
  · rfl

/-- A semicolon, where the scopes stay valid. -/
theorem Mirrors.semicolon (h : Mirrors py start p o) (parsed : parseToken py p (.punct 59) = some p')
    (valid : p'.result.invalidScope = false) (read : o.statement = some o') :
    Mirrors py start p' o' := by
  rw [parseToken_semicolon h.reading] at parsed
  cases parsed
  unfold Open.statement at read
  split at read
  · cases read
  cases read
  have innermost := h.current _ List.mem_cons_self
  refine ⟨h.reading, .nil, h.frames, ?_, h.counts.settled h.said h.here innermost valid⟩
  intro frame mem isServer
  obtain ⟨i, pointer, last⟩ := h.current frame mem isServer
  exact ⟨i, pointer, settle_servers_length.trans last⟩

/-- What opening a block takes. -/
theorem openBlock_eq_some (h : openBlock py p = some p') : ∃ command,
    commandName py p.statement = some command ∧
      (luaBlock command = true ∧
        p' = { p with result := blockCounted p.result, statement := [], skipping := some 1 } ∨
      luaBlock command = false ∧ p' = { p with
        result := (child p.frame.scope command p.statement (blockCounted p.result)).1
        statement := []
        frame := (child p.frame.scope command p.statement (blockCounted p.result)).2
        outer := p.frame :: p.outer }) := by
  unfold openBlock at h
  split at h
  · cases h
  rename_i command named
  refine ⟨command, named, ?_⟩
  dsimp only at h
  split at h
  · cases h
  split at h
  · rename_i isLua
    exact .inl ⟨isLua, (Option.some.inj h).symm⟩
  rename_i notLua
  split at h
  · cases h
  · exact .inr ⟨by simpa using notLua, (Option.some.inj h).symm⟩

theorem isKnown_of_lua {name : Text} (h : luaBlock name = true) : isKnown name = true := by
  rw [isKnown, h, Bool.true_or]

/-- A brace that opens a block, where the scopes stay valid. -/
theorem Mirrors.opened (h : Mirrors py start p o)
    (notLua : ∀ name, o.args.head? = some name → luaBlock name = false)
    (parsed : parseToken py p (.punct 123) = some p') (valid : p'.result.invalidScope = false) :
    Mirrors py start p' o.enter := by
  rw [parseToken_opening h.reading] at parsed
  obtain ⟨command, named, ⟨isLua, -⟩ | ⟨-, rfl⟩⟩ := openBlock_eq_some parsed
  · have head := (h.said.names command (isKnown_of_lua isLua)).mp named
    rw [notLua command head] at isLua
    cases isLua
  have said := h.said
  rw [named] at said
  have same := child_level said valid
  rw [h.here] at same
  have frames := h.frames
  refine ⟨h.reading, .nil, ?_, ?_, h.counts.entered o.args valid same⟩
  · rw [List.map_cons, frames, same]
    rfl
  · intro frame mem isServer
    obtain cases | ⟨isHttp, cases⟩ | ⟨inside, notHttp, notServer, cases⟩ := child_cases valid <;>
      rw [cases] at mem ⊢ <;> rcases List.mem_cons.mp mem with rfl | mem
    · cases isServer
    · exact h.current frame mem isServer
    · exact ⟨_, rfl, List.length_append⟩
    · have above : Level.server ∈ levels start o.outer :=
        frames ▸ List.mem_map.mpr ⟨frame, mem, levelOfScope_eq_server.mpr isServer⟩
      have http : levelAt start o.outer = .http := h.here.symm.trans (levelOfScope_eq_http.mpr isHttp)
      exact absurd above (levels_of_http http)
    · exact absurd isServer notServer
    · exact h.current frame mem isServer

theorem Counts.left {before : List Item} {header : List Text}
    (h : Counts start r ((before, header) :: outer) items) :
    Counts start r outer (before ++ [.block header items]) := by
  constructor
  · rw [collect_leave (closed_found _ _)]
    exact h.protocols
  · rw [collect_leave (closed_found _ _)]
    exact h.commands
  · intro target here
    rw [collect_leave (closed_found _ _)]
    exact h.includes target here
  · rw [collect_leave closed_serversOf]
    exact h.servers
  · rw [collect_leave closed_httpsOf]
    exact h.https
  · exact h.counted

/-- A brace that closes a block. -/
theorem Mirrors.closed (h : Mirrors py start p o) (parsed : parseToken py p (.punct 125) = some p')
    (read : o.leave = some o') : Mirrors py start p' o' := by
  rw [parseToken_closing h.reading] at parsed
  obtain ⟨reading, said, frames, current, counts⟩ := h
  obtain ⟨result, statement, frame, around, skipping⟩ := p
  obtain ⟨args, items, outer⟩ := o
  unfold closeBlock at parsed
  unfold Open.leave at read
  split at parsed
  · rename_i outside frames' noStatement noFrames
    obtain rfl : statement = [] := noStatement
    obtain rfl : around = outside :: frames' := noFrames
    cases parsed
    split at read
    · rename_i before header outer' noArgs noBlocks
      obtain rfl : args = [] := noArgs
      obtain rfl : outer = (before, header) :: outer' := noBlocks
      cases read
      refine ⟨reading, said, (List.cons.inj frames).2, ?_, counts.left⟩
      exact fun frame mem => current frame (List.mem_cons_of_mem _ mem)
    · cases read
  · cases parsed

theorem Counts.lua (h : Counts start r outer items) :
    Counts start (blockCounted r) outer (items ++ [.lua args]) := by
  constructor
  · rw [collect_same _ (found_lua ..)]
    exact h.protocols
  · rw [collect_same _ (found_lua ..)]
    exact h.commands
  · intro target here
    rw [collect_same _ (found_lua ..)]
    exact h.includes target here
  · rw [collect_same _ (serversOf_lua args)]
    exact h.servers
  · rw [collect_same _ (httpsOf_lua args)]
    exact h.https
  · exact Nat.le_succ_of_le h.counted

/-- A brace that opens a block of Lua code. -/
theorem Mirrors.lua (h : Mirrors py start p o) {name : Text} (head : o.args.head? = some name)
    (isLua : luaBlock name = true) (parsed : parseToken py p (.punct 123) = some p') :
    Skips py start p' o 1 := by
  rw [parseToken_opening h.reading] at parsed
  have named := (h.said.names name (isKnown_of_lua isLua)).mpr head
  obtain ⟨command, named', ⟨-, rfl⟩ | ⟨notLua, -⟩⟩ := openBlock_eq_some parsed
  · exact ⟨rfl, rfl, .nil, h.frames, h.current, h.counts.lua⟩
  · obtain rfl := Option.some.inj (named.symm.trans named')
    rw [isLua] at notLua
    cases notLua

/-! ## Lua code -/

variable {depth : Nat} {token : Token}

theorem parseToken_skipping (h : p.skipping = some depth) :
    parseToken py p token = skipToken p depth token := by
  unfold parseToken
  rw [h]

/-- What is no brace changes nothing inside a block of Lua code. -/
theorem Skips.other (h : Skips py start p o depth) (noOpening : token ≠ .punct 123)
    (noClosing : token ≠ .punct 125) : parseToken py p token = some p := by
  rw [parseToken_skipping h.skipping, skipToken, if_neg noOpening, if_neg noClosing]

theorem Skips.opening (h : Skips py start p o depth) (parsed : parseToken py p (.punct 123) = some p') :
    Skips py start p' o (depth + 1) := by
  rw [parseToken_skipping h.skipping, skipToken, if_pos rfl] at parsed
  split at parsed
  · cases parsed
  · cases parsed
    exact ⟨rfl, h.after⟩

theorem Skips.closing (h : Skips py start p o depth) (inside : depth ≠ 1) (positive : depth ≠ 0)
    (parsed : parseToken py p (.punct 125) = some p') : Skips py start p' o (depth - 1) := by
  rw [parseToken_skipping h.skipping, skipToken, if_neg (by decide), if_pos rfl,
    if_neg (by omega)] at parsed
  cases parsed
  exact ⟨rfl, h.after⟩

theorem Skips.closed (h : Skips py start p o 1) (parsed : parseToken py p (.punct 125) = some p') :
    Mirrors py start p' o.luaBlock := by
  rw [parseToken_skipping h.skipping, skipToken, if_neg (by decide), if_pos rfl, if_pos rfl] at parsed
  cases parsed
  exact h.after

theorem child_valid (valid : (child scope command tokens r).1.invalidScope = false) :
    r.invalidScope = false := by
  obtain cases | ⟨-, cases⟩ | ⟨inside, -, -, cases⟩ := child_cases valid <;> rw [cases] at valid
  · exact valid
  · exact valid
  · exact valid

/-- Scopes that have become invalid stay so. -/
theorem parseToken_valid (parsed : parseToken py p token = some p')
    (valid : p'.result.invalidScope = false) : p.result.invalidScope = false := by
  unfold parseToken at parsed
  split at parsed
  · unfold skipToken at parsed
    split at parsed
    · split at parsed
      · cases parsed
      · cases parsed
        exact valid
    split at parsed <;> cases parsed <;> exact valid
  · split at parsed
    · cases parsed
      exact (settle_valid valid).1
    split at parsed
    · unfold closeBlock at parsed
      split at parsed
      · cases parsed
        exact valid
      · cases parsed
    · obtain ⟨command, -, ⟨-, rfl⟩ | ⟨-, rfl⟩⟩ := openBlock_eq_some parsed
      · exact valid
      · exact child_valid (r := blockCounted p.result) valid
  · cases parsed
    exact valid

theorem parseTokens_valid (parsed : parseTokens py p tokens = some p')
    (valid : p'.result.invalidScope = false) : p.result.invalidScope = false := by
  induction tokens generalizing p with
  | nil =>
    cases parsed
    exact valid
  | cons token tokens ih =>
    obtain ⟨next, first, rest⟩ := Option.bind_eq_some_iff.mp parsed
    exact parseToken_valid first (ih rest)

/-! ## Whole files -/

theorem Mirrors.initial (py : Python) (scope : Scope) (h : levelOfScope scope ≠ .server) :
    Mirrors py (levelOfScope scope) (.start scope) .empty := by
  refine ⟨rfl, .nil, rfl, ?_, ?_⟩
  · intro frame mem isServer
    obtain rfl := List.mem_singleton.mp mem
    exact absurd (levelOfScope_eq_server.mpr isServer) h
  · constructor
    · rw [Open.empty, collect, found_nil]
      exact .nil
    · rw [Open.empty, collect, found_nil]
      rfl
    · intro target here
      rw [Open.empty, collect, found_nil]
      rfl
    · rw [Open.empty, collect, serversOf_nil, if_neg h]
      exact .nil
    · rw [Open.empty, collect, httpsOf_nil]
      split <;> simp_all [Parser.start]
    · exact Nat.le_refl 0

end KonnectFapi.Guarantees

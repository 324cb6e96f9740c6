import KonnectFapi.Lib.UrlSplit
import Mathlib.Algebra.GroupWithZero.Nat
import Mathlib.Data.List.Infix

/-!
# Evidence of the inbound TLS policy

Source: tests/harness/wp3_tls_metadata.py:13-35,61-402. The dump of the gateway's
nginx configuration, split into its files, cut into tokens and read scope by scope.
-/

namespace KonnectFapi.Source.TlsMetadata
open Lib

def maxNginxConfigBytes : Nat := 1048576
def maxNginxTokens : Nat := 250000
def maxNginxBlockDepth : Nat := 64

def nginxConf : Text := text "nginx.conf"
def nginxInject : Text := text "nginx-inject.conf"
def nginxKong : Text := text "nginx-kong.conf"
def nginxKongInject : Text := text "nginx-kong-inject.conf"

def expectedFiles : List Text := [nginxConf, nginxInject, nginxKong, nginxKongInject]

def targetApiListen : List Text := [text "listen", text "0.0.0.0:8443", text "ssl"]

def expectedNginxConfigPath : Text := text "/usr/local/kong/nginx.conf"

def syntaxOk : Text :=
  text "nginx: the configuration file " ++ expectedNginxConfigPath ++ text " syntax is ok"

def testOk : Text :=
  text "nginx: configuration file " ++ expectedNginxConfigPath ++ text " test is successful"

def markerPrefix : Text := text "# configuration file "

/-- `_MAIN_CONFIG_MARKER` and the keys of `_ALLOWED_MARKERS` -/
def marker (name : Text) : Text := markerPrefix ++ text "/usr/local/kong/" ++ name ++ text ":"

/-! ## Tokens -/

inductive Token where
  | punct (c : CodePoint)
  | string (value : Text)
  | word (value : Text)
  deriving DecidableEq

def Token.value : Token → Text
  | .punct c => [c]
  | .string value | .word value => value

/-- Where the loop of `_lex_nginx` stands: between tokens or in a word, which is then
not empty; in a comment; in a string. -/
inductive LexMode where
  | plain (word : Text)
  | comment
  | quoted (quote : CodePoint) (value : Text) (escaped : Bool)

def flush : Text → List Token
  | [] => []
  | word => [.word word]

/-- `text.startswith("--", index)` -/
def startsComment (c : CodePoint) (rest : Text) : Bool := c == 45 && rest.head? == some 45

/-- One character: the tokens it completes and how the next one is read. -/
def lexStep (mode : LexMode) (c : CodePoint) (rest : Text) : List Token × LexMode :=
  match mode with
  | .comment => ([], if c = 10 then .plain [] else .comment)
  | .quoted quote value escaped =>
    if escaped then ([], .quoted quote (value ++ [c]) false)
    else if c = 92 then ([], .quoted quote value true)
    else if c = quote then ([.string value], .plain [])
    else ([], .quoted quote (value ++ [c]) false)
  | .plain word =>
    if isSpacePoint c then (flush word, .plain [])
    else if c == 35 || startsComment c rest then (flush word, .comment)
    else if c == 123 || c == 125 || c == 59 then (flush word ++ [.punct c], .plain [])
    else if c == 34 || c == 39 then (flush word, .quoted c [] false)
    else ([], .plain (word ++ [c]))

def lexFrom (mode : LexMode) : Text → Option (List Token)
  | [] =>
    match mode with
    | .plain word => some (flush word)
    | .comment => some []
    | .quoted .. => none
  | c :: rest => (lexFrom (lexStep mode c rest).2 rest).map ((lexStep mode c rest).1 ++ ·)

/-- `_lex_nginx`; the bound is checked at every token, and so of all of them. -/
def lexNginx (t : Text) : Option (List Token) :=
  (lexFrom (.plain []) t).filter (·.length ≤ maxNginxTokens)

def commandName (py : Python) (statement : List Token) : Option Text :=
  match statement with
  | .word value :: _ => some (py.lower value)
  | _ => none

/-- `_lua_block` of a command that is not `None` -/
def luaBlock (command : Text) : Bool :=
  (text "_by_lua_block").isSuffixOf command || command == text "lua_block" ||
    command == text "set_by_lua_block"

/-! ## Scopes -/

inductive Scope where
  | main | http | server | stream | streamServer | other
  deriving DecidableEq

/-- The dict of one server block. -/
structure Server where
  protocols : List Bool := []
  sslConfCommands : Nat := 0
  listenStatements : List (List Token) := []

/-- `result` -/
structure Section where
  httpBlocks : Nat := 0
  includes : List (Scope × Text) := []
  httpProtocols : List Bool := []
  httpSslConfCommands : Nat := 0
  httpServers : List Server := []
  streamProtocols : List Bool := []
  otherSslProtocols : Nat := 0
  invalidScope : Bool := false
  blockCount : Nat := 0

def Section.inServer (r : Section) (i : Nat) (f : Server → Server) : Section :=
  { r with httpServers := r.httpServers.modify i f }

/-- A call of `parse_scope`; its server is the one at that place of `http_servers`. -/
structure Frame where
  scope : Scope
  server : Option Nat

/-- The calls of `parse_scope` that have not returned, the depth of `_skip_block` while
it runs, and what they share. -/
structure Parser where
  result : Section
  statement : List Token
  frame : Frame
  outer : List Frame
  skipping : Option Nat

def settleProtocols (statement : List Token) (frame : Frame) (r : Section) : Section :=
  let settingValid := statement.tail == [.word (text "TLSv1.3")]
  match frame.scope, frame.server with
  | .http, _ => { r with httpProtocols := r.httpProtocols ++ [settingValid] }
  | .server, some i => r.inServer i fun s => { s with protocols := s.protocols ++ [settingValid] }
  | .stream, _ | .streamServer, _ => { r with streamProtocols := r.streamProtocols ++ [settingValid] }
  | _, _ => { r with otherSslProtocols := r.otherSslProtocols + 1, invalidScope := true }

def settleConfCommand (frame : Frame) (r : Section) : Section :=
  match frame.scope, frame.server with
  | .http, _ => { r with httpSslConfCommands := r.httpSslConfCommands + 1 }
  | .server, some i => r.inServer i fun s => { s with sslConfCommands := s.sslConfCommands + 1 }
  | _, _ => r

def settleInclude (statement : List Token) (frame : Frame) (r : Section) : Section :=
  match statement with
  | [_, path] => { r with includes := r.includes ++ [(frame.scope, path.value)] }
  | _ => { r with invalidScope := true }

def settleListen (statement : List Token) (frame : Frame) (r : Section) : Section :=
  match frame.scope, frame.server with
  | .server, some i =>
    r.inServer i fun s => { s with listenStatements := s.listenStatements ++ [statement] }
  | _, _ => r

/-- A statement that ended with a semicolon. -/
def settle (command : Option Text) (statement : List Token) (frame : Frame) (r : Section) : Section :=
  if command = some (text "ssl_protocols") then settleProtocols statement frame r
  else if command = some (text "ssl_conf_command") then settleConfCommand frame r
  else if command = some (text "include") then settleInclude statement frame r
  else if command = some (text "listen") then settleListen statement frame r
  else r

/-- The scope of a block and what its header says to the result. -/
def child (scope : Scope) (command : Text) (statement : List Token) (r : Section) :
    Section × Frame :=
  if scope = .main ∧ command = text "http" ∧ statement.length = 1 then
    ({ r with httpBlocks := r.httpBlocks + 1 }, ⟨.http, none⟩)
  else if scope = .main ∧ command = text "stream" then (r, ⟨.stream, none⟩)
  else if scope = .http ∧ command = text "server" then
    ({ r with httpServers := r.httpServers ++ [{}] }, ⟨.server, some r.httpServers.length⟩)
  else if scope = .stream ∧ command = text "server" then (r, ⟨.streamServer, none⟩)
  else if scope = .main ∧ command = text "events" then (r, ⟨.other, none⟩)
  else if command = text "http" ∨ command = text "stream" ∨ command = text "server" then
    ({ r with invalidScope := true }, ⟨.other, none⟩)
  else (r, ⟨.other, none⟩)

/-- Opening a block; nothing where a call returns `False`. -/
def openBlock (py : Python) (p : Parser) : Option Parser :=
  match commandName py p.statement with
  | none => none
  | some command =>
    let result := { p.result with blockCount := p.result.blockCount + 1 }
    if result.blockCount > maxNginxTokens then none
    else if luaBlock command then some { p with result, statement := [], skipping := some 1 }
    else if p.outer.length + 1 > maxNginxBlockDepth then none
    else
      let (result, frame) := child p.frame.scope command p.statement result
      some { p with result, statement := [], frame, outer := p.frame :: p.outer }

/-- A call returns to the one around it. -/
def closeBlock (p : Parser) : Option Parser :=
  match p.statement, p.outer with
  | [], frame :: outer => some { p with frame, outer }
  | _, _ => none

/-- The loop of `_skip_block`. -/
def skipToken (p : Parser) (depth : Nat) (token : Token) : Option Parser :=
  if token = .punct 123 then
    if depth + 1 > maxNginxBlockDepth then none else some { p with skipping := some (depth + 1) }
  else if token = .punct 125 then
    some { p with skipping := if depth - 1 = 0 then none else some (depth - 1) }
  else some p

/-- The loop of `parse_scope`, of whichever call is the innermost. -/
def parseToken (py : Python) (p : Parser) (token : Token) : Option Parser :=
  match p.skipping, token with
  | some depth, token => skipToken p depth token
  | none, .punct c =>
    if c = 59 then
      some { p with
        result := settle (commandName py p.statement) p.statement p.frame p.result
        statement := [] }
    else if c = 125 then closeBlock p
    else openBlock py p
  | none, token => some { p with statement := p.statement ++ [token] }

def Parser.start (scope : Scope) : Parser := ⟨{}, [], ⟨scope, none⟩, [], none⟩

def parseTokens (py : Python) (p : Parser) (tokens : List Token) : Option Parser :=
  tokens.foldlM (parseToken py) p

/-- All calls have returned but the first, which ends with the tokens. -/
def Parser.finished (p : Parser) : Option Section :=
  if p.skipping = none ∧ p.outer.isEmpty ∧ p.statement = [] then some p.result else none

def parseSection (py : Python) (t : Text) (initialScope : Scope) : Option Section := do
  let tokens ← lexNginx t
  let p ← parseTokens py (.start initialScope) tokens
  p.finished

/-! ## The dump -/

/-- What ends a line for `str.splitlines`. -/
def isLineEnd (c : CodePoint) : Bool :=
  (10 ≤ c.val && c.val ≤ 13) || (28 ≤ c.val && c.val ≤ 30) || c == 133 || c == 8232 || c == 8233

/-- `str.splitlines()`; a line feed after a carriage return ends no second line. -/
def splitLines (line : Text) (returned : Bool) : Text → List Text
  | [] => if line = [] then [] else [line]
  | c :: rest =>
    if returned && c == 10 then splitLines [] false rest
    else if isLineEnd c then line :: splitLines [] (c == 13) rest
    else splitLines (line ++ [c]) false rest

structure Sections where
  sections : List (Text × List Text) := []
  activeName : Option Text := none

/-- `_ALLOWED_MARKERS.get(line)` -/
def markedName (line : Text) : Option Text := expectedFiles.find? (marker · == line)

/-- One line of the dump. -/
def splitLine (s : Sections) (line : Text) : Option Sections :=
  if line = syntaxOk ∨ line = testOk then some s
  else if markerPrefix.isPrefixOf line then
    match markedName line with
    | none => none
    | some name =>
      if (s.sections.lookup name).isSome then none
      else some ⟨s.sections ++ [(name, [])], some name⟩
  else
    match s.activeName with
    | none => none
    | some active =>
      some { s with
        sections := s.sections.map fun e => if e.1 = active then (e.1, e.2 ++ [line]) else e }

def splitConfigDump (configDump : Bytes) : Option (List (Text × Text)) :=
  if configDump = [] ∨ maxNginxConfigBytes < configDump.length then none
  else
    match decodeUtf8 configDump with
    | none => none
    | some t =>
      if 0 ∈ t then none
      else
        let lines := splitLines [] false t
        if lines.count syntaxOk ≠ 1 ∨ lines.count testOk ≠ 1 then none
        else
          match lines.foldlM splitLine {} with
          | none => none
          | some s =>
            -- the names are distinct, so the sets are equal where these are permutations
            if !(s.sections.map Prod.fst).isPerm expectedFiles ∨ marker nginxConf ∉ lines then none
            else some (s.sections.map fun e => (e.1, [10].intercalate e.2))

/-! ## The policy -/

def initialScope (name : Text) : Scope :=
  if name = nginxConf ∨ name = nginxInject then .main else .http

/-- Lists of pairs are equal once sorted where they are permutations. -/
def validIncludeGraph (main injectedMain kong injectedHttp : Section) : Bool :=
  !([main, injectedMain, kong, injectedHttp].any (·.invalidScope)) && main.httpBlocks == 1 &&
    injectedMain.blockCount == 0 && injectedMain.includes.isEmpty && injectedHttp.includes.isEmpty &&
    main.includes.isPerm [(.main, nginxInject), (.http, nginxKong)] &&
    kong.includes == [(.http, nginxKongInject)]

def isTargetListen (statement : List Token) : Bool := statement.map Token.value == targetApiListen

/-- A statement on the port that is not the expected one. -/
def isAmbiguousListen (statement : List Token) : Bool :=
  let values := (statement.map Token.value).tail
  !isTargetListen statement && values.any (fun value => decide (text "8443" <:+: value)) &&
    values.contains (text "ssl")

def Server.targetListens (s : Server) : Nat := s.listenStatements.countP isTargetListen

/-- What sets `ambiguous_tls_port`. -/
def Server.ambiguous (s : Server) : Bool :=
  s.listenStatements.any isAmbiguousListen || s.targetListens > 1

/-- The verdict over the sections, in the order of the dump. -/
def proven (parsed : List Section) (main : Section) : Bool × Nat :=
  let servers := parsed.flatMap (·.httpServers)
  match servers.any (·.ambiguous), servers.filter (·.targetListens ≠ 0) with
  | false, [target] =>
    let applicableProtocols := parsed.flatMap (·.httpProtocols) ++ target.protocols
    let applicableSslConfCommands :=
      (parsed.map (·.httpSslConfCommands)).sum + target.sslConfCommands
    (applicableProtocols.length ≥ 1 && applicableSslConfCommands == 0 &&
      applicableProtocols.all id && main.httpBlocks == 1, applicableProtocols.length)
  | _, _ => (false, 0)

def parseNamed (py : Python) (e : Text × Text) : Option (Text × Section) :=
  (parseSection py e.2 (initialScope e.1)).map (e.1, ·)

/-- `_parse_config_dump` -/
def parseConfigDump (py : Python) (configDump : Bytes) : Bool × Nat :=
  match splitConfigDump configDump with
  | none => (false, 0)
  | some sections =>
    match sections.mapM (parseNamed py) with
    | none => (false, 0)
    | some parsed =>
      match parsed.lookup nginxConf, parsed.lookup nginxInject, parsed.lookup nginxKong,
        parsed.lookup nginxKongInject with
      | some main, some injectedMain, some kong, some injectedHttp =>
        if validIncludeGraph main injectedMain kong injectedHttp then
          proven (parsed.map Prod.snd) main
        else (false, 0)
      | _, _, _, _ => (false, 0)

end KonnectFapi.Source.TlsMetadata

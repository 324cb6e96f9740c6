import KonnectFapi.Lib.NginxConf
import KonnectFapi.Source.TlsMetadata
import Mathlib.Data.List.Forall2

/-!
# Scopes and contexts

What the parser counts in a scope is what nginx reads in the context of that name, as
long as both see the same directives: one token and then one block after the other.
-/

namespace KonnectFapi.Guarantees
open Lib Source.TlsMetadata
open Lib.Nginx (Item Open argsOf bodiesOf)

/-- The contexts the policy of the listener is made of. -/
inductive Level where
  | main | http | server | elsewhere
  deriving DecidableEq

def levelOfScope : Scope → Level
  | .main => .main
  | .http => .http
  | .server => .server
  | .stream | .streamServer | .other => .elsewhere

/-- The context inside a block. -/
def inner (level : Level) (header : List Text) : Level :=
  if level = .main ∧ header.head? = some (text "http") then .http
  else if level = .http ∧ header.head? = some (text "server") then .server
  else .elsewhere

/-- The context that is being read in a file which begins in `start`. -/
def levelAt (start : Level) : List (List Item × List Text) → Level
  | [] => start
  | (_, header) :: outer => inner (levelAt start outer) header

/-- The contexts of all open blocks, innermost first. -/
def levels (start : Level) : List (List Item × List Text) → List Level
  | [] => [start]
  | block :: outer => levelAt start (block :: outer) :: levels start outer

/-- What stands in the contexts of one kind, below items of another. -/
def under (target level : Level) (items : List Item) : List Item :=
  match target, level with
  | .main, .main | .http, .http | .server, .server => items
  | .http, .main => (bodiesOf (text "http") items).flatten
  | .server, .http => (bodiesOf (text "server") items).flatten
  | .server, .main =>
    (bodiesOf (text "server") (bodiesOf (text "http") items).flatten).flatten
  | _, _ => []

/-- A summary of items, of those in closed blocks and of those in open ones. -/
def collect {β : Type} (f : Level → List Item → List β) (start : Level) :
    List (List Item × List Text) → List Item → List β
  | [], items => f start items
  | (before, header) :: outer, items =>
    collect f start outer before ++ f (levelAt start ((before, header) :: outer)) items

/-- A block says of a summary what its body does. -/
def Closed {β : Type} (f : Level → List Item → List β) : Prop :=
  ∀ level before header body,
    f level (before ++ [.block header body]) = f level before ++ f (inner level header) body

/-- The arguments of the directives of a name in the contexts of one kind. -/
def found (name : Text) (target level : Level) (items : List Item) : List (List Text) :=
  argsOf name (under target level items)

/-- The directives of a server block that decide how its listener speaks TLS. -/
structure ServerFacts where
  protocols : List (List Text)
  commands : List (List Text)
  listens : List (List Text)

def factsOf (body : List Item) : ServerFacts :=
  ⟨argsOf (text "ssl_protocols") body, argsOf (text "ssl_conf_command") body,
    argsOf (text "listen") body⟩

def serversOf (level : Level) (items : List Item) : List ServerFacts :=
  match level with
  | .main => (bodiesOf (text "server") (bodiesOf (text "http") items).flatten).map factsOf
  | .http => (bodiesOf (text "server") items).map factsOf
  | .server => [factsOf items]
  | .elsewhere => []

/-- One entry for each context of directives that apply to every server. -/
def httpsOf (level : Level) (items : List Item) : List Unit :=
  match level with
  | .main => (bodiesOf (text "http") items).map fun _ => ()
  | .http => [()]
  | _ => []

variable {β : Type} {f : Level → List Item → List β} {start level : Level}
  {outer : List (List Item × List Text)} {items : List Item}

/-! ## Summaries -/

theorem collect_leave (closed : Closed f) (before : List Item) (header : List Text) :
    collect f start outer (before ++ [.block header items]) =
      collect f start ((before, header) :: outer) items := by
  cases outer with
  | nil => exact closed ..
  | cons block outer =>
    obtain ⟨earlier, header'⟩ := block
    rw [collect, closed, ← List.append_assoc]
    rfl

/-- What an item adds to the innermost context it adds to the summary. -/
theorem collect_append {extra : List β} (item : Item)
    (adds : f (levelAt start outer) (items ++ [item]) = f (levelAt start outer) items ++ extra) :
    collect f start outer (items ++ [item]) = collect f start outer items ++ extra := by
  cases outer with
  | nil => exact adds
  | cons block outer =>
    obtain ⟨before, header⟩ := block
    rw [collect, adds, ← List.append_assoc]
    rfl

theorem collect_same (item : Item)
    (same : f (levelAt start outer) (items ++ [item]) = f (levelAt start outer) items) :
    collect f start outer (items ++ [item]) = collect f start outer items := by
  have nothing : f (levelAt start outer) (items ++ [item]) = f (levelAt start outer) items ++ [] := by
    rw [same, List.append_nil]
  rw [collect_append item nothing, List.append_nil]

theorem inner_http {header : List Text} (h : header.head? = some (text "http")) :
    inner .main header = .http := by
  rw [inner, if_pos ⟨rfl, h⟩]

theorem inner_server {header : List Text} (h : header.head? = some (text "server")) :
    inner .http header = .server := by
  rw [inner, if_neg (by simp), if_pos ⟨rfl, h⟩]

theorem inner_main_of_ne {header : List Text} (h : header.head? ≠ some (text "http")) :
    inner .main header = .elsewhere := by
  rw [inner, if_neg (by simp [h]), if_neg (by simp)]

theorem inner_http_of_ne {header : List Text} (h : header.head? ≠ some (text "server")) :
    inner .http header = .elsewhere := by
  rw [inner, if_neg (by simp), if_neg (by simp [h])]

theorem inner_below {header : List Text} (h : level = .server ∨ level = .elsewhere) :
    inner level header = .elsewhere := by
  rcases h with rfl | rfl <;> simp [inner]

theorem closed_found (name : Text) (target : Level) : Closed (found name target) := by
  intro level before header body
  cases level with
  | main =>
    by_cases http : header.head? = some (text "http")
    · rw [inner_http http]
      cases target <;> simp [found, under, Nginx.bodiesOf_block, http]
    · rw [inner_main_of_ne http]
      cases target <;> simp [found, under, Nginx.bodiesOf_block, http]
  | http =>
    by_cases server : header.head? = some (text "server")
    · rw [inner_server server]
      cases target <;> simp [found, under, Nginx.bodiesOf_block, server]
    · rw [inner_http_of_ne server]
      cases target <;> simp [found, under, Nginx.bodiesOf_block, server]
  | server =>
    rw [inner_below (.inl rfl)]
    cases target <;> simp [found, under]
  | elsewhere =>
    rw [inner_below (.inr rfl)]
    cases target <;> simp [found, under]

theorem closed_serversOf : Closed serversOf := by
  intro level before header body
  cases level with
  | main =>
    by_cases http : header.head? = some (text "http")
    · simp [inner_http http, serversOf, Nginx.bodiesOf_block, http]
    · simp [inner_main_of_ne http, serversOf, Nginx.bodiesOf_block, http]
  | http =>
    by_cases server : header.head? = some (text "server")
    · simp [inner_server server, serversOf, Nginx.bodiesOf_block, server]
    · simp [inner_http_of_ne server, serversOf, Nginx.bodiesOf_block, server]
  | server => simp [inner_below, serversOf, factsOf]
  | elsewhere => simp [inner_below, serversOf]

theorem closed_httpsOf : Closed httpsOf := by
  intro level before header body
  cases level with
  | main =>
    by_cases http : header.head? = some (text "http")
    · simp [inner_http http, httpsOf, Nginx.bodiesOf_block, http]
    · simp [inner_main_of_ne http, httpsOf, Nginx.bodiesOf_block, http]
  | http =>
    by_cases server : header.head? = some (text "server")
    · simp [inner_server server, httpsOf]
    · simp [inner_http_of_ne server, httpsOf]
  | server => simp [inner_below, httpsOf]
  | elsewhere => simp [inner_below, httpsOf]

/-! ## What one directive adds -/

/-- Where a directive counts. -/
def Counted (name : Text) (target level : Level) (args : List Text) : Prop :=
  level = target ∧ target ≠ .elsewhere ∧ args.head? = some name

instance (name : Text) (target level : Level) (args : List Text) :
    Decidable (Counted name target level args) := inferInstanceAs (Decidable (_ ∧ _ ∧ _))

theorem found_simple (name : Text) (target level : Level) (items : List Item) (args : List Text) :
    found name target level (items ++ [.simple args]) =
      found name target level items ++ if Counted name target level args then [args.tail] else [] := by
  cases target <;> cases level <;> simp [found, under, Counted, Nginx.argsOf_simple]

theorem found_lua (name : Text) (target level : Level) (items : List Item) (args : List Text) :
    found name target level (items ++ [.lua args]) = found name target level items := by
  cases target <;> cases level <;> simp [found, under]

theorem found_nil (name : Text) (target level : Level) : found name target level [] = [] := by
  cases target <;> cases level <;> rfl

theorem serversOf_simple (h : level ≠ .server) (args : List Text) :
    serversOf level (items ++ [.simple args]) = serversOf level items := by
  cases level <;> simp_all [serversOf]

theorem serversOf_lua (args : List Text) :
    serversOf level (items ++ [.lua args]) = serversOf level items := by
  cases level <;> simp [serversOf, factsOf]

theorem serversOf_nil : serversOf level [] = if level = .server then [⟨[], [], []⟩] else [] := by
  cases level <;> rfl

theorem httpsOf_simple (args : List Text) :
    httpsOf level (items ++ [.simple args]) = httpsOf level items := by
  cases level <;> simp [httpsOf]

theorem httpsOf_lua (args : List Text) :
    httpsOf level (items ++ [.lua args]) = httpsOf level items := by
  cases level <;> simp [httpsOf]

theorem httpsOf_nil : httpsOf level [] = if level = .http then [()] else [] := by
  cases level <;> rfl

/-! ## What one statement adds -/

variable {command : Option Text} {statement : List Token} {frame : Frame} {r : Section}

theorem names_apart : text "ssl_protocols" ≠ text "ssl_conf_command" ∧
    text "ssl_protocols" ≠ text "include" ∧ text "ssl_protocols" ≠ text "listen" ∧
    text "ssl_conf_command" ≠ text "include" ∧ text "ssl_conf_command" ≠ text "listen" ∧
    text "include" ≠ text "listen" := by
  decide +kernel

/-- What a statement says to the server it stands in. -/
def settledServer (command : Option Text) (statement : List Token) (s : Server) : Server :=
  if command = some (text "ssl_protocols") then
    { s with protocols := s.protocols ++ [statement.tail == [.word (text "TLSv1.3")]] }
  else if command = some (text "ssl_conf_command") then
    { s with sslConfCommands := s.sslConfCommands + 1 }
  else if command = some (text "listen") then
    { s with listenStatements := s.listenStatements ++ [statement] }
  else s

theorem settle_httpProtocols : (settle command statement frame r).httpProtocols =
    r.httpProtocols ++ if command = some (text "ssl_protocols") ∧ frame.scope = .http then
      [statement.tail == [.word (text "TLSv1.3")]] else [] := by
  obtain ⟨scope, server⟩ := frame
  unfold settle
  split
  · rename_i isProtocols
    unfold settleProtocols
    cases scope <;> cases server <;> simp [isProtocols, Section.inServer]
  rename_i other
  simp only [other, false_and, if_false, List.append_nil]
  split
  · unfold settleConfCommand
    cases scope <;> cases server <;> rfl
  split
  · unfold settleInclude
    split <;> rfl
  split
  · unfold settleListen
    cases scope <;> cases server <;> rfl
  · rfl

theorem settle_httpSslConfCommands : (settle command statement frame r).httpSslConfCommands =
    r.httpSslConfCommands +
      if command = some (text "ssl_conf_command") ∧ frame.scope = .http then 1 else 0 := by
  obtain ⟨scope, server⟩ := frame
  unfold settle
  split
  · rename_i isProtocols
    rw [if_neg fun both => names_apart.1 (Option.some.inj (isProtocols.symm.trans both.1))]
    unfold settleProtocols
    cases scope <;> cases server <;> rfl
  split
  · rename_i isCommand
    unfold settleConfCommand
    cases scope <;> cases server <;> simp [isCommand, Section.inServer]
  rename_i other
  simp only [other, false_and, if_false, Nat.add_zero]
  split
  · unfold settleInclude
    split <;> rfl
  split
  · unfold settleListen
    cases scope <;> cases server <;> rfl
  · rfl

/-- The place an include statement names. -/
def includedBy (command : Option Text) (statement : List Token) (scope : Scope) :
    List (Scope × Text) :=
  if command = some (text "include") then
    match statement with
    | [_, path] => [(scope, path.value)]
    | _ => []
  else []

theorem settle_includes : (settle command statement frame r).includes =
    r.includes ++ includedBy command statement frame.scope := by
  obtain ⟨apart, protocols, -, commands, -, listens⟩ := names_apart
  obtain ⟨scope, server⟩ := frame
  unfold settle includedBy
  split
  · rename_i isProtocols
    rw [if_neg fun isInclude => protocols (Option.some.inj (isProtocols.symm.trans isInclude)),
      List.append_nil]
    unfold settleProtocols
    cases scope <;> cases server <;> rfl
  split
  · rename_i isCommand
    rw [if_neg fun isInclude => commands (Option.some.inj (isCommand.symm.trans isInclude)),
      List.append_nil]
    unfold settleConfCommand
    cases scope <;> cases server <;> rfl
  split
  · unfold settleInclude
    rcases statement with _ | ⟨head, _ | ⟨path, _ | ⟨third, rest⟩⟩⟩
    · exact (List.append_nil _).symm
    · exact (List.append_nil _).symm
    · rfl
    · exact (List.append_nil _).symm
  rw [List.append_nil]
  split
  · unfold settleListen
    cases scope <;> cases server <;> rfl
  · rfl

theorem settle_httpServers : (settle command statement frame r).httpServers =
    match frame.scope, frame.server with
    | .server, some i => r.httpServers.modify i (settledServer command statement)
    | _, _ => r.httpServers := by
  have stays : ∀ i, r.httpServers.modify i (fun s => s) = r.httpServers := fun i => List.modify_id i _
  obtain ⟨scope, server⟩ := frame
  unfold settle settledServer
  split
  · unfold settleProtocols
    cases scope <;> cases server <;> rfl
  split
  · unfold settleConfCommand
    cases scope <;> cases server <;> rfl
  split
  · rename_i isInclude
    have noListen : command ≠ some (text "listen") := fun isListen =>
      names_apart.2.2.2.2.2 (Option.some.inj (isInclude.symm.trans isListen))
    simp only [noListen, if_false, stays]
    unfold settleInclude
    cases scope <;> cases server <;> split <;> rfl
  split
  · unfold settleListen
    cases scope <;> cases server <;> rfl
  · simp only [stays]
    cases scope <;> cases server <;> rfl

theorem settle_httpBlocks : (settle command statement frame r).httpBlocks = r.httpBlocks ∧
    (settle command statement frame r).blockCount = r.blockCount := by
  obtain ⟨scope, server⟩ := frame
  unfold settle
  split
  · unfold settleProtocols
    cases scope <;> cases server <;> exact ⟨rfl, rfl⟩
  split
  · unfold settleConfCommand
    cases scope <;> cases server <;> exact ⟨rfl, rfl⟩
  split
  · unfold settleInclude
    split <;> exact ⟨rfl, rfl⟩
  split
  · unfold settleListen
    cases scope <;> cases server <;> exact ⟨rfl, rfl⟩
  · exact ⟨rfl, rfl⟩

/-- A statement that leaves the scopes valid found them so, and includes one file or none. -/
theorem settle_valid (h : (settle command statement frame r).invalidScope = false) :
    r.invalidScope = false ∧
      (command = some (text "include") → ∃ name path, statement = [name, path]) := by
  obtain ⟨-, protocols, -, commands, -, -⟩ := names_apart
  obtain ⟨scope, server⟩ := frame
  unfold settle at h
  split at h
  · rename_i isProtocols
    refine ⟨?_, fun isInclude => absurd (Option.some.inj (isProtocols.symm.trans isInclude)) protocols⟩
    unfold settleProtocols at h
    cases scope <;> cases server <;> first | exact h | cases h
  split at h
  · rename_i isCommand
    refine ⟨?_, fun isInclude => absurd (Option.some.inj (isCommand.symm.trans isInclude)) commands⟩
    unfold settleConfCommand at h
    cases scope <;> cases server <;> exact h
  split at h
  · unfold settleInclude at h
    split at h
    · exact ⟨h, fun _ => ⟨_, _, rfl⟩⟩
    · cases h
  rename_i other
  refine ⟨?_, fun isInclude => absurd isInclude other⟩
  split at h
  · unfold settleListen at h
    cases scope <;> cases server <;> exact h
  · exact h

/-! ## What the result counts -/

/-- A protocol setting that is held valid is one. -/
def ProtocolRead (valid : Bool) (args : List Text) : Prop := valid = true → args = [text "TLSv1.3"]

structure ServerRead (s : Server) (facts : ServerFacts) : Prop where
  protocols : List.Forall₂ ProtocolRead s.protocols facts.protocols
  commands : s.sslConfCommands = facts.commands.length
  listens : s.listenStatements.map (·.map Token.value) = facts.listens.map (text "listen" :: ·)

/-- The included files of the contexts of one kind, each as the arguments of a directive. -/
def includesIn (target : Level) (r : Section) : List (List Text) :=
  (r.includes.filter fun e => levelOfScope e.1 = target).map fun e => [e.2]

/-- The result after a part of a file says of each context what nginx reads there. -/
structure Counts (start : Level) (r : Section) (outer : List (List Item × List Text))
    (items : List Item) : Prop where
  protocols : List.Forall₂ ProtocolRead r.httpProtocols
    (collect (found (text "ssl_protocols") .http) start outer items)
  commands : r.httpSslConfCommands =
    (collect (found (text "ssl_conf_command") .http) start outer items).length
  includes : ∀ target, target ≠ .elsewhere →
    includesIn target r = collect (found (text "include") target) start outer items
  servers : List.Forall₂ ServerRead r.httpServers (collect serversOf start outer items)
  https : (collect httpsOf start outer items).length = r.httpBlocks + if start = .http then 1 else 0
  counted : r.httpBlocks ≤ r.blockCount

/-- The names that mean something to the parser. -/
def isKnown (name : Text) : Bool :=
  luaBlock name || [text "ssl_protocols", text "ssl_conf_command", text "include", text "listen",
    text "http", text "server"].contains name

/-- A statement and its command say what nginx has read since the last directive. -/
structure Says (command : Option Text) (statement : List Token) (args : List Text) : Prop where
  values : statement.map Token.value = args
  names : ∀ name, isKnown name = true → (command = some name ↔ args.head? = some name)

theorem Says.tail {args : List Text} (h : Says command statement args) :
    statement.tail.map Token.value = args.tail := by
  rw [← h.values, List.map_tail]

theorem Says.protocolRead {args : List Text} (h : Says command statement args) :
    ProtocolRead (statement.tail == [.word (text "TLSv1.3")]) args.tail := by
  intro valid
  rw [← h.tail, eq_of_beq valid]
  rfl

theorem Says.server {args : List Text} (h : Says command statement args) {s : Server}
    (read : ServerRead s (factsOf items)) :
    ServerRead (settledServer command statement s) (factsOf (items ++ [.simple args])) := by
  have protocols := h.names (text "ssl_protocols") (by simp [isKnown])
  have commands := h.names (text "ssl_conf_command") (by simp [isKnown])
  have listens := h.names (text "listen") (by simp [isKnown])
  obtain ⟨apart, -, apart', -, apart'', -⟩ := names_apart
  obtain ⟨readProtocols, readCommands, readListens⟩ := read
  unfold settledServer
  unfold factsOf at *
  simp only [Nginx.argsOf_append, Nginx.argsOf_simple, ← protocols, ← commands, ← listens]
  split
  · rename_i same
    constructor
    · refine List.rel_append readProtocols ?_
      simpa [same] using h.protocolRead
    · simpa [same, apart] using readCommands
    · simpa [same, apart'] using readListens
  split
  · rename_i same
    constructor
    · simpa [same, apart.symm] using readProtocols
    · simpa [same] using readCommands
    · simpa [same, apart''] using readListens
  split
  · rename_i same
    constructor
    · simpa [same, apart'.symm] using readProtocols
    · simpa [same, apart''.symm] using readCommands
    · have whole : text "listen" :: args.tail = args := List.cons_head?_tail (listens.mp same)
      simp only [List.map_append, List.map_cons, List.map_nil, h.values, whole]
      rw [← readListens]
  · rename_i noProtocols noCommand noListen
    constructor
    · simpa [noProtocols] using readProtocols
    · simpa [noCommand] using readCommands
    · simpa [noListen] using readListens

theorem collect_server (items : List Item) (item : Item) (h : levelAt start outer = .server) : ∃ front,
    collect serversOf start outer items = front ++ [factsOf items] ∧
      collect serversOf start outer (items ++ [item]) = front ++ [factsOf (items ++ [item])] := by
  cases outer with
  | nil =>
    obtain rfl : start = .server := h
    exact ⟨[], rfl, rfl⟩
  | cons block outer =>
    obtain ⟨before, header⟩ := block
    refine ⟨collect serversOf start outer before, ?_, ?_⟩ <;>
      rw [collect, h, serversOf]

/-- The last of the entries is rewritten. -/
theorem forall₂_modify {α γ : Type} {R : α → γ → Prop} {entries : List α} {front : List γ}
    {a b : γ} {i : Nat} {g : α → α} (h : List.Forall₂ R entries (front ++ [a])) (last : entries.length = i + 1)
    (keeps : ∀ e, R e a → R (g e) b) : List.Forall₂ R (entries.modify i g) (front ++ [b]) := by
  induction front generalizing entries i with
  | nil =>
    obtain ⟨e, rest, first, others, rfl⟩ := List.forall₂_cons_right_iff.mp h
    obtain rfl := List.forall₂_nil_right_iff.mp others
    obtain rfl : i = 0 := by simpa using last.symm
    exact .cons (keeps e first) .nil
  | cons x front ih =>
    obtain ⟨e, rest, first, others, rfl⟩ := List.forall₂_cons_right_iff.mp h
    have length : rest.length = (front ++ [a]).length := others.length_eq
    cases i with
    | zero =>
      rw [List.length_append, List.length_singleton] at length
      rw [List.length_cons] at last
      omega
    | succ i => exact .cons first (ih others (by simpa using last))

theorem levelOfScope_eq_http {scope : Scope} : levelOfScope scope = .http ↔ scope = .http := by
  cases scope <;> decide

theorem levelOfScope_eq_server {scope : Scope} : levelOfScope scope = .server ↔ scope = .server := by
  cases scope <;> decide

theorem collect_found_simple (name : Text) (target : Level) (args : List Text) :
    collect (found name target) start outer (items ++ [.simple args]) =
      collect (found name target) start outer items ++
        if Counted name target (levelAt start outer) args then [args.tail] else [] :=
  collect_append _ (found_simple ..)

/-- A statement and the directive that nginx reads. -/
theorem Counts.settled {args : List Text} (h : Counts start r outer items)
    (read : Says command statement args) (scope : levelOfScope frame.scope = levelAt start outer)
    (current : frame.scope = .server → ∃ i, frame.server = some i ∧ r.httpServers.length = i + 1)
    (valid : (settle command statement frame r).invalidScope = false) :
    Counts start (settle command statement frame r) outer (items ++ [.simple args]) := by
  have protocols := read.names (text "ssl_protocols") (by simp [isKnown])
  have commands := read.names (text "ssl_conf_command") (by simp [isKnown])
  have includes := read.names (text "include") (by simp [isKnown])
  obtain ⟨-, single⟩ := settle_valid valid
  constructor
  · rw [settle_httpProtocols, collect_found_simple]
    refine List.rel_append h.protocols ?_
    simp only [Counted, ← scope, levelOfScope_eq_http, ← protocols, ne_eq, reduceCtorEq,
      not_false_eq_true, true_and, and_comm]
    split
    · exact .cons read.protocolRead .nil
    · exact .nil
  · rw [settle_httpSslConfCommands, collect_found_simple, List.length_append, h.commands]
    simp only [Counted, ← scope, levelOfScope_eq_http, ← commands, ne_eq, reduceCtorEq,
      not_false_eq_true, true_and, and_comm]
    split <;> rfl
  · intro target here
    rw [includesIn, settle_includes, List.filter_append, List.map_append, collect_found_simple,
      ← h.includes target here, includesIn, List.append_cancel_left_eq]
    unfold includedBy
    by_cases isInclude : command = some (text "include")
    · obtain ⟨name, path, rfl⟩ := single isInclude
      have tail : args.tail = [path.value] := read.tail.symm
      by_cases same : levelOfScope frame.scope = target
      · rw [if_pos isInclude, if_pos ⟨scope.symm.trans same, here, includes.mp isInclude⟩]
        simp [same, tail]
      · rw [if_pos isInclude, if_neg fun counted => same (scope.trans counted.1)]
        simp [same]
    · rw [if_neg isInclude, if_neg fun counted => isInclude (includes.mpr counted.2.2)]
      rfl
  · rw [settle_httpServers]
    by_cases inside : levelAt start outer = .server
    · obtain ⟨front, before, after⟩ := collect_server items (.simple args) inside
      have isServer := levelOfScope_eq_server.mp (scope.trans inside)
      obtain ⟨i, pointer, last⟩ := current isServer
      rw [isServer, pointer, after]
      exact forall₂_modify (before ▸ h.servers) last fun s => read.server
    · have outside : frame.scope ≠ .server := fun isServer =>
        inside (scope.symm.trans (levelOfScope_eq_server.mpr isServer))
      rw [collect_same _ (serversOf_simple inside args)]
      split
      · rename_i isServer _
        exact absurd isServer outside
      · exact h.servers
  · rw [(settle_httpBlocks).1, collect_same _ (httpsOf_simple args), h.https]
  · rw [(settle_httpBlocks).1, (settle_httpBlocks).2]
    exact h.counted

end KonnectFapi.Guarantees

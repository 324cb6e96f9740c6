import KonnectFapi.Guarantees.LexReading
import KonnectFapi.Lib.Lookup
import KonnectFapi.Lib.Refusal

/-!
# What proves the TLS policy

Source: tests/harness/wp3_tls_metadata.py:61-402. The dump is evidence for what nginx
would read in the files it shows: the directives that apply to the API listener.
-/

namespace KonnectFapi.Guarantees
open Lib Source.TlsMetadata
open Lib.Nginx (Item argsOf bodiesOf splice)

/-! ## The policy nginx applies -/

/-- The files of a dump, read as nginx reads them. -/
def readFile (sections : List (Text × Text)) (path : Text) : Option (List Item) :=
  (sections.lookup path).bind (Nginx.read luaBlock)

/-- A `listen` directive of the API port that asks for TLS. -/
def isApiListen (args : List Text) : Bool :=
  args.head? == some (text "0.0.0.0:8443") && args.tail.contains (text "ssl")

def isApiServer (body : List Item) : Bool := (argsOf (text "listen") body).any isApiListen

/-- The directives of a name that apply to a server: those for all of them and its own. -/
def applied (name : Text) (http server : List Item) : List (List Text) :=
  argsOf name http ++ argsOf name server

/-- A context with everything it includes. -/
def included (files : Text → Option (List Item)) (items : List Item) : Option (List Item) :=
  splice files expectedFiles.length items

/-- The context of all servers and the one server of the API port, with everything they
include; nothing where a file is missing or there are several. -/
def apiServer (files : Text → Option (List Item)) : Option (List Item × List Item) :=
  match (files nginxConf).bind (included files) with
  | none => none
  | some main =>
    match bodiesOf (text "http") main with
    | [body] =>
      match included files body with
      | none => none
      | some http =>
        match ((bodiesOf (text "server") http).mapM (included files)).map (·.filter isApiServer) with
        | some [server] => some (http, server)
        | _ => none
    | _ => none

/-- Every protocol setting that applies to the API port is TLS 1.3, and there is one. -/
structure AppliesTls13 (files : Text → Option (List Item)) : Prop where
  holds : ∃ http server, apiServer files = some (http, server) ∧
    applied (text "ssl_protocols") http server ≠ [] ∧
    (∀ args ∈ applied (text "ssl_protocols") http server, args = [text "TLSv1.3"]) ∧
    applied (text "ssl_conf_command") http server = []

/-- What is proven of a dump is so in its files. -/
def ProvesTls13 (py : Python) (configDump : Bytes) : Prop :=
  (parseConfigDump py configDump).1 = true →
    ∃ sections, splitConfigDump configDump = some sections ∧ AppliesTls13 (readFile sections)

/-- Every file of the dump is written so that both readers take each character alike. -/
def PlainDump (py : Python) (configDump : Bytes) : Prop :=
  ∀ sections, splitConfigDump configDump = some sections →
    ∀ e ∈ sections, plainSection py e.2 = true

/-! ## One file -/

variable {py : Python} {r : Section} {items : List Item} {sections : List (Text × Text)}
  {parsed : List (Text × Section)}

theorem all_protocols {valid : List Bool} {settings : List (List Text)}
    (read : List.Forall₂ ProtocolRead valid settings) (all : valid.all id = true) :
    ∀ args ∈ settings, args = [text "TLSv1.3"] := by
  intro args mem
  obtain ⟨v, hv, reads⟩ := exists_of_mem_right read mem
  exact reads (List.all_eq_true.mp all v hv)

theorem lookup_parsed (h : sections.mapM (parseNamed py) = some parsed) {name : Text}
    (named : parsed.lookup name = some r) :
    ∃ t, sections.lookup name = some t ∧ parseSection py t (initialScope name) = some r := by
  induction sections generalizing parsed with
  | nil =>
    cases h
    cases named
  | cons e rest ih =>
    obtain ⟨name', t⟩ := e
    rw [List.mapM_cons] at h
    obtain ⟨first, hfirst, h⟩ := Option.bind_eq_some_iff.mp h
    obtain ⟨others, hrest, h⟩ := Option.bind_eq_some_iff.mp h
    cases h
    obtain ⟨result, section', rfl⟩ := Option.map_eq_some_iff.mp hfirst
    rw [List.lookup_cons] at named ⊢
    split at named
    · rename_i same
      cases named
      rw [same]
      obtain rfl := eq_of_beq same
      exact ⟨t, rfl, section'⟩
    · rename_i other
      rw [other]
      exact ih hrest named

/-- A file of the dump, where its scopes are valid. -/
theorem file_read (h : sections.mapM (parseNamed py) = some parsed) {name : Text}
    (plain : ∀ e ∈ sections, plainSection py e.2 = true) (named : parsed.lookup name = some r)
    (valid : r.invalidScope = false) : ∃ items, readFile sections name = some items ∧
      Counts (levelOfScope (initialScope name)) r [] items := by
  obtain ⟨t, found, parsedTo⟩ := lookup_parsed h named
  have outside : levelOfScope (initialScope name) ≠ .server := by
    unfold initialScope
    split <;> decide
  have plainHere := plain _ (mem_of_lookup_eq_some found)
  obtain ⟨items, read, counts⟩ := section_read outside plainHere parsedTo valid
  exact ⟨items, by rw [readFile, found, Option.bind_some, read], counts⟩

/-! ## The parser's verdict -/

/-- What it takes to be proven. -/
structure Verdict (py : Python) (sections : List (Text × Text)) (parsed : List (Text × Section))
    (main injectedMain kong injectedHttp : Section) (target : Server) : Prop where
  parses : sections.mapM (parseNamed py) = some parsed
  hasMain : parsed.lookup nginxConf = some main
  hasInjectedMain : parsed.lookup nginxInject = some injectedMain
  hasKong : parsed.lookup nginxKong = some kong
  hasInjectedHttp : parsed.lookup nginxKongInject = some injectedHttp
  graph : validIncludeGraph main injectedMain kong injectedHttp = true
  unambiguous : ∀ e ∈ parsed, ∀ s ∈ e.2.httpServers, s.ambiguous = false
  isTarget : (parsed.flatMap fun e => e.2.httpServers).filter (·.targetListens ≠ 0) = [target]
  nonempty : parsed.flatMap (fun e => e.2.httpProtocols) ++ target.protocols ≠ []
  protocols : ∀ e ∈ parsed, e.2.httpProtocols.all id = true
  targetProtocols : target.protocols.all id = true
  commands : ∀ e ∈ parsed, e.2.httpSslConfCommands = 0
  targetCommands : target.sslConfCommands = 0

theorem parseConfigDump_proven {configDump : Bytes} (h : (parseConfigDump py configDump).1 = true) :
    ∃ sections parsed main injectedMain kong injectedHttp target,
      splitConfigDump configDump = some sections ∧
        Verdict py sections parsed main injectedMain kong injectedHttp target := by
  unfold parseConfigDump at h
  split at h
  · cases h
  rename_i sections split
  split at h
  · cases h
  rename_i parsed hparsed
  split at h
  · rename_i main injectedMain kong injectedHttp hmain hinjected hkong hhttp
    split at h
    · rename_i graph
      unfold proven at h
      dsimp only at h
      split at h
      · rename_i target unambiguous isTarget
        simp only [Bool.and_eq_true, decide_eq_true_eq, beq_iff_eq, List.all_append, Nat.add_eq_zero_iff,
          List.flatMap_map, List.any_flatMap, List.any_eq_false] at h unambiguous isTarget
        obtain ⟨⟨⟨some, none, nones⟩, all, alls⟩, -⟩ := h
        refine ⟨sections, parsed, main, injectedMain, kong, injectedHttp, target, split, hparsed, hmain,
          hinjected, hkong, hhttp, graph, ?_, isTarget, ?_, ?_, alls, ?_, nones⟩
        · intro e he server hs
          exact Bool.eq_false_iff.mpr fun ambiguous =>
            unambiguous e he (List.any_eq_true.mpr ⟨server, hs, ambiguous⟩)
        · exact List.ne_nil_of_length_pos some
        · rw [List.all_flatMap, List.all_eq_true] at all
          exact all
        · rw [List.map_map, List.sum_eq_zero_iff_forall_eq_nat] at none
          exact fun e he => none _ (List.mem_map.mpr ⟨e, he, rfl⟩)
      · cases h
    · cases h
  · cases h

theorem splitConfigDump_names {configDump : Bytes} (h : splitConfigDump configDump = some sections) :
    (sections.map Prod.fst).Perm expectedFiles := by
  unfold splitConfigDump at h
  split at h
  · cases h
  split at h
  · cases h
  split at h
  · cases h
  dsimp only at h
  split at h
  · cases h
  split at h
  · cases h
  split at h
  · cases h
  rename_i s _ expected
  cases h
  rw [not_or, Bool.not_eq_true', Bool.not_eq_false, List.isPerm_iff] at expected
  rw [List.map_map]
  exact expected.1

theorem expectedFiles_nodup : expectedFiles.Nodup := by decide +kernel

variable {main injectedMain kong injectedHttp : Section} {target : Server}

theorem parseNamed_names (h : sections.mapM (parseNamed py) = some parsed) :
    parsed.map Prod.fst = sections.map Prod.fst := by
  induction sections generalizing parsed with
  | nil =>
    cases h
    rfl
  | cons e rest ih =>
    rw [List.mapM_cons] at h
    obtain ⟨first, hfirst, h⟩ := Option.bind_eq_some_iff.mp h
    obtain ⟨others, hrest, h⟩ := Option.bind_eq_some_iff.mp h
    cases h
    obtain ⟨result, -, rfl⟩ := Option.map_eq_some_iff.mp hfirst
    rw [List.map_cons, List.map_cons, ih hrest]

/-- The dump has these four files and no others. -/
theorem Verdict.files (h : Verdict py sections parsed main injectedMain kong injectedHttp target)
    (names : (sections.map Prod.fst).Perm expectedFiles) :
    parsed.Perm [(nginxConf, main), (nginxInject, injectedMain), (nginxKong, kong),
      (nginxKongInject, injectedHttp)] := by
  rw [← parseNamed_names h.parses] at names
  have nodup : (parsed.map Prod.fst).Nodup := names.nodup_iff.mpr expectedFiles_nodup
  refine (List.perm_ext_iff_of_nodup nodup.of_map ?_).mpr fun e => ?_
  · exact List.Nodup.of_map Prod.fst expectedFiles_nodup
  obtain ⟨name, r⟩ := e
  constructor
  · intro mem
    have known : name ∈ expectedFiles := names.mem_iff.mp (List.mem_map.mpr ⟨_, mem, rfl⟩)
    have found := lookup_eq_some_of_mem nodup mem
    simp only [expectedFiles, List.mem_cons, List.not_mem_nil, or_false] at known
    rcases known with rfl | rfl | rfl | rfl
    · simp [Option.some.inj (found.symm.trans h.hasMain)]
    · simp [Option.some.inj (found.symm.trans h.hasInjectedMain)]
    · simp [Option.some.inj (found.symm.trans h.hasKong)]
    · simp [Option.some.inj (found.symm.trans h.hasInjectedHttp)]
  · intro mem
    simp only [List.mem_cons, List.not_mem_nil, or_false, Prod.mk.injEq] at mem
    rcases mem with ⟨rfl, rfl⟩ | ⟨rfl, rfl⟩ | ⟨rfl, rfl⟩ | ⟨rfl, rfl⟩
    · exact mem_of_lookup_eq_some h.hasMain
    · exact mem_of_lookup_eq_some h.hasInjectedMain
    · exact mem_of_lookup_eq_some h.hasKong
    · exact mem_of_lookup_eq_some h.hasInjectedHttp

/-! ## Contexts -/

/-- The include graph of the four files. -/
structure Graph (main injectedMain kong injectedHttp : Section) : Prop where
  valid : main.invalidScope = false ∧ injectedMain.invalidScope = false ∧
    kong.invalidScope = false ∧ injectedHttp.invalidScope = false
  https : main.httpBlocks = 1
  blocks : injectedMain.blockCount = 0
  leaves : injectedMain.includes = [] ∧ injectedHttp.includes = []
  roots : main.includes.Perm [(.main, nginxInject), (.http, nginxKong)]
  middle : kong.includes = [(.http, nginxKongInject)]

theorem graph_of_valid (h : validIncludeGraph main injectedMain kong injectedHttp = true) :
    Graph main injectedMain kong injectedHttp := by
  simp only [validIncludeGraph, Bool.and_eq_true, Bool.not_eq_true', beq_iff_eq, List.isEmpty_iff,
    List.isPerm_iff, List.any_cons, List.any_nil, Bool.or_eq_false_iff] at h
  obtain ⟨⟨⟨⟨⟨⟨⟨isMain, isInjected, isKong, isHttp, -⟩, https⟩, blocks⟩, leaf⟩, leaf'⟩, roots⟩, middle⟩ := h
  exact ⟨⟨isMain, isInjected, isKong, isHttp⟩, https, blocks, ⟨leaf, leaf'⟩, roots, middle⟩

theorem Graph.includesIn_main (h : Graph main injectedMain kong injectedHttp) :
    includesIn .main main = [[nginxInject]] ∧ includesIn .http main = [[nginxKong]] ∧
      includesIn .server main = [] := by
  have filtered : ∀ target, (includesIn target main).Perm
      (([(Scope.main, nginxInject), (Scope.http, nginxKong)].filter
        fun e => levelOfScope e.1 = target).map fun e => [e.2]) :=
    fun target => (h.roots.filter _).map _
  exact ⟨List.perm_singleton.mp (filtered .main), List.perm_singleton.mp (filtered .http),
    (filtered .server).eq_nil⟩

theorem Graph.includesIn_kong (h : Graph main injectedMain kong injectedHttp) :
    includesIn .http kong = [[nginxKongInject]] ∧ includesIn .server kong = [] := by
  unfold includesIn
  rw [h.middle]
  exact ⟨rfl, rfl⟩

theorem includesIn_leaf (h : r.includes = []) (target : Level) : includesIn target r = [] := by
  rw [includesIn, h]
  rfl

/-- The four files as nginx reads them, counted by the parser. -/
structure Reading (files : Text → Option (List Item)) (main injectedMain kong injectedHttp : Section)
    (mainItems injectedItems kongItems httpItems : List Item) : Prop where
  graph : Graph main injectedMain kong injectedHttp
  hasMain : files nginxConf = some mainItems
  hasInjected : files nginxInject = some injectedItems
  hasKong : files nginxKong = some kongItems
  hasHttp : files nginxKongInject = some httpItems
  main : Counts .main main [] mainItems
  injected : Counts .main injectedMain [] injectedItems
  kong : Counts .http kong [] kongItems
  http : Counts .http injectedHttp [] httpItems

theorem Verdict.reading (h : Verdict py sections parsed main injectedMain kong injectedHttp target)
    (plain : ∀ e ∈ sections, plainSection py e.2 = true) : ∃ mainItems injectedItems kongItems httpItems,
      Reading (readFile sections) main injectedMain kong injectedHttp mainItems injectedItems kongItems
        httpItems := by
  have graph := graph_of_valid h.graph
  obtain ⟨validMain, validInjected, validKong, validHttp⟩ := graph.valid
  obtain ⟨mainItems, hasMain, main⟩ := file_read h.parses plain h.hasMain validMain
  obtain ⟨injectedItems, hasInjected, injected⟩ :=
    file_read h.parses plain h.hasInjectedMain validInjected
  obtain ⟨kongItems, hasKong, kong⟩ := file_read h.parses plain h.hasKong validKong
  obtain ⟨httpItems, hasHttp, http⟩ := file_read h.parses plain h.hasInjectedHttp validHttp
  have mainScope : initialScope nginxConf = .main := by decide +kernel
  have injectedScope : initialScope nginxInject = .main := by decide +kernel
  have kongScope : initialScope nginxKong = .http := by decide +kernel
  have httpScope : initialScope nginxKongInject = .http := by decide +kernel
  rw [mainScope] at main
  rw [injectedScope] at injected
  rw [kongScope] at kong
  rw [httpScope] at http
  exact ⟨mainItems, injectedItems, kongItems, httpItems, graph, hasMain, hasInjected, hasKong, hasHttp,
    main, injected, kong, http⟩

variable {files : Text → Option (List Item)} {mainItems injectedItems kongItems httpItems : List Item}

theorem names_not_included : text "ssl_protocols" ≠ Nginx.includeName ∧
    text "ssl_conf_command" ≠ Nginx.includeName ∧ text "listen" ≠ Nginx.includeName := by
  decide +kernel

/-- There is one block of servers, in the main file. -/
theorem Reading.one (h : Reading files main injectedMain kong injectedHttp mainItems injectedItems
      kongItems httpItems) : (∃ body, bodiesOf (text "http") mainItems = [body]) ∧
    bodiesOf (text "http") injectedItems = [] := by
  have https := h.main.https
  have noHttps := h.injected.https
  have noBlocks := h.injected.counted
  rw [h.graph.blocks] at noBlocks
  rw [h.graph.https] at https
  rw [Nat.le_zero.mp noBlocks] at noHttps
  constructor
  · simpa [collect, httpsOf, List.length_eq_one_iff] using https
  · simpa [collect, httpsOf] using noHttps

/-- That block with its two files in place. -/
theorem Reading.contexts (h : Reading files main injectedMain kong injectedHttp mainItems injectedItems
      kongItems httpItems) {body : List Item} (one : bodiesOf (text "http") mainItems = [body]) :
    ∃ spliced http, included files mainItems = some spliced ∧
    bodiesOf (text "http") spliced = [body] ∧ included files body = some http ∧
    (∀ name, name ≠ Nginx.includeName → (argsOf name http).Perm
      (argsOf name body ++ (argsOf name kongItems ++ argsOf name httpItems))) ∧
    (bodiesOf (text "server") http).Perm (bodiesOf (text "server") body ++
      (bodiesOf (text "server") kongItems ++ bodiesOf (text "server") httpItems)) := by
  obtain ⟨mainIncludes, mainHttp, -⟩ := h.graph.includesIn_main
  have rootOnce : argsOf Nginx.includeName mainItems = [[nginxInject]] :=
    (h.main.includes .main (by decide)).symm.trans mainIncludes
  have injectedLeaf : argsOf Nginx.includeName injectedItems = [] :=
    (h.injected.includes .main (by decide)).symm.trans (includesIn_leaf h.graph.leaves.1 _)
  have httpLeaf : argsOf Nginx.includeName httpItems = [] :=
    (h.http.includes .http (by decide)).symm.trans (includesIn_leaf h.graph.leaves.2 _)
  have kongOnce : argsOf Nginx.includeName kongItems = [[nginxKongInject]] :=
    (h.kong.includes .http (by decide)).symm.trans h.graph.includesIn_kong.1
  have bodyOnce : argsOf Nginx.includeName body = [[nginxKong]] := by
    have inside := (h.main.includes .http (by decide)).symm.trans mainHttp
    rw [collect, found, under, one, List.flatten_singleton] at inside
    exact inside
  obtain ⟨spliced, isSpliced, -, bodies⟩ :=
    Nginx.splice_one rootOnce h.hasInjected (Nginx.splice_self 3 injectedLeaf)
  obtain ⟨kong', isKong, kongArgs, kongBodies⟩ :=
    Nginx.splice_one kongOnce h.hasHttp (Nginx.splice_self 2 httpLeaf)
  obtain ⟨http, isHttp, httpArgs, httpBodies⟩ := Nginx.splice_one bodyOnce h.hasKong isKong
  have same := bodies (text "http")
  rw [one, h.one.2, List.append_nil] at same
  refine ⟨spliced, http, isSpliced, List.perm_singleton.mp same, isHttp, ?_, ?_⟩
  · exact fun name other => (httpArgs name other).trans ((kongArgs name other).append_left _)
  · exact (httpBodies _).trans ((kongBodies _).append_left _)

/-! ## Servers -/

theorem isApiListen_target {args : List Text} {statement : List Token}
    (values : statement.map Token.value = text "listen" :: args) :
    (isTargetListen statement = true → isApiListen args = true) ∧
      (isApiListen args = true → isTargetListen statement = false →
        isAmbiguousListen statement = true) := by
  unfold isTargetListen isAmbiguousListen isApiListen isTargetListen
  rw [values]
  constructor
  · intro target
    obtain rfl : args = [text "0.0.0.0:8443", text "ssl"] := (List.cons.inj (eq_of_beq target)).2
    decide +kernel
  · intro api other
    simp only [Bool.and_eq_true, beq_iff_eq] at api
    obtain ⟨head, ssl⟩ := api
    obtain ⟨rest, rfl⟩ := List.head?_eq_some_iff.mp head
    have port : text "8443" <:+: text "0.0.0.0:8443" := by decide +kernel
    simp only [other, List.tail_cons, List.any_cons, port, decide_true, Bool.true_or, Bool.not_false,
      Bool.true_and, List.contains_cons]
    rw [List.tail_cons] at ssl
    rw [ssl, Bool.or_true]

/-- Where no statement on the port is ambiguous, the parser finds the servers of the port. -/
theorem ServerRead.api {s : Server} {body : List Item} (h : ServerRead s (factsOf body))
    (unambiguous : s.ambiguous = false) :
    decide (s.targetListens ≠ 0) = isApiServer body := by
  have values := h.listens
  simp only [Server.ambiguous, Bool.or_eq_false_iff, List.any_eq_false] at unambiguous
  rw [Bool.eq_iff_iff, decide_eq_true_eq, isApiServer, List.any_eq_true, Server.targetListens,
    ← Nat.pos_iff_ne_zero, List.countP_pos_iff]
  constructor
  · rintro ⟨statement, mem, isTarget⟩
    have listed : statement.map Token.value ∈ s.listenStatements.map (·.map Token.value) :=
      List.mem_map.mpr ⟨statement, mem, rfl⟩
    rw [values] at listed
    obtain ⟨args, read, same⟩ := List.mem_map.mp listed
    exact ⟨args, read, (isApiListen_target same.symm).1 isTarget⟩
  · rintro ⟨args, read, api⟩
    have listed : text "listen" :: args ∈ s.listenStatements.map (·.map Token.value) := by
      rw [values]
      exact List.mem_map.mpr ⟨args, read, rfl⟩
    obtain ⟨statement, mem, same⟩ := List.mem_map.mp listed
    refine ⟨statement, mem, ?_⟩
    by_contra other
    exact unambiguous.1 statement mem ((isApiListen_target same).2 api (by simpa using other))

theorem filter_related {α γ : Type} {R : α → γ → Prop} {p : α → Bool} {q : γ → Bool} {xs : List α}
    {ys : List γ} (h : List.Forall₂ R xs ys) (agree : ∀ x ∈ xs, ∀ y, R x y → p x = q y) :
    List.Forall₂ R (xs.filter p) (ys.filter q) := by
  induction h with
  | nil => exact .nil
  | @cons x y xs ys first _ ih =>
    have rest := ih fun x mem => agree x (List.mem_cons_of_mem _ mem)
    have same := agree x List.mem_cons_self y first
    rw [List.filter_cons, List.filter_cons, same]
    split
    · exact .cons first rest
    · exact rest

/-- The server blocks of the three files, as the parser and nginx read them. -/
theorem Reading.servers (h : Reading files main injectedMain kong injectedHttp mainItems injectedItems
      kongItems httpItems) {body : List Item} (one : bodiesOf (text "http") mainItems = [body]) :
    injectedMain.httpServers = [] ∧
    List.Forall₂ (fun s body => ServerRead s (factsOf body))
      (main.httpServers ++ (kong.httpServers ++ injectedHttp.httpServers))
      (bodiesOf (text "server") body ++
        (bodiesOf (text "server") kongItems ++ bodiesOf (text "server") httpItems)) := by
  have mainServers : List.Forall₂ ServerRead main.httpServers
      ((bodiesOf (text "server") (bodiesOf (text "http") mainItems).flatten).map factsOf) :=
    h.main.servers
  have injectedServers : List.Forall₂ ServerRead injectedMain.httpServers
      ((bodiesOf (text "server") (bodiesOf (text "http") injectedItems).flatten).map factsOf) :=
    h.injected.servers
  have kongServers : List.Forall₂ ServerRead kong.httpServers
      ((bodiesOf (text "server") kongItems).map factsOf) := h.kong.servers
  have httpServers : List.Forall₂ ServerRead injectedHttp.httpServers
      ((bodiesOf (text "server") httpItems).map factsOf) := h.http.servers
  rw [one, List.flatten_singleton, List.forall₂_map_right_iff] at mainServers
  rw [h.one.2] at injectedServers
  rw [List.forall₂_map_right_iff] at kongServers httpServers
  exact ⟨List.forall₂_nil_right_iff.mp injectedServers,
    List.rel_append mainServers (List.rel_append kongServers httpServers)⟩

/-- No server block includes anything. -/
theorem Reading.server_leaves (h : Reading files main injectedMain kong injectedHttp mainItems
      injectedItems kongItems httpItems) {body : List Item}
    (one : bodiesOf (text "http") mainItems = [body]) :
    ∀ server ∈ bodiesOf (text "server") body ++
      (bodiesOf (text "server") kongItems ++ bodiesOf (text "server") httpItems),
      argsOf Nginx.includeName server = [] := by
  have flat : ∀ bodies : List (List Item), argsOf (text "include") bodies.flatten = [] →
      ∀ server ∈ bodies, argsOf Nginx.includeName server = [] := by
    intro bodies none server mem
    obtain ⟨before, after, rfl⟩ := List.append_of_mem mem
    rw [List.flatten_append, List.flatten_cons, Nginx.argsOf_append, Nginx.argsOf_append,
      List.append_eq_nil_iff, List.append_eq_nil_iff] at none
    exact none.2.1
  have mainNone := (h.main.includes .server (by decide)).symm.trans h.graph.includesIn_main.2.2
  have kongNone := (h.kong.includes .server (by decide)).symm.trans h.graph.includesIn_kong.2
  have httpNone := (h.http.includes .server (by decide)).symm.trans
    (includesIn_leaf h.graph.leaves.2 _)
  rw [collect, found, under, one, List.flatten_singleton] at mainNone
  intro server mem
  rcases List.mem_append.mp mem with mem | mem
  · exact flat _ mainNone server mem
  rcases List.mem_append.mp mem with mem | mem
  · exact flat _ kongNone server mem
  · exact flat _ httpNone server mem

/-! ## The listener -/

/-- Protocol settings and TLS commands for all servers, as the parser counted them. -/
theorem Reading.settings (h : Reading files main injectedMain kong injectedHttp mainItems
      injectedItems kongItems httpItems) {body : List Item}
    (one : bodiesOf (text "http") mainItems = [body]) :
    injectedMain.httpProtocols = [] ∧
    List.Forall₂ ProtocolRead (main.httpProtocols ++ (kong.httpProtocols ++ injectedHttp.httpProtocols))
      (argsOf (text "ssl_protocols") body ++
        (argsOf (text "ssl_protocols") kongItems ++ argsOf (text "ssl_protocols") httpItems)) ∧
    main.httpSslConfCommands + (kong.httpSslConfCommands + injectedHttp.httpSslConfCommands) =
      (argsOf (text "ssl_conf_command") body ++ (argsOf (text "ssl_conf_command") kongItems ++
        argsOf (text "ssl_conf_command") httpItems)).length := by
  have mainProtocols := h.main.protocols
  have injectedProtocols := h.injected.protocols
  have mainCommands := h.main.commands
  rw [collect, found, under, one, List.flatten_singleton] at mainProtocols mainCommands
  rw [collect, found, under, h.one.2] at injectedProtocols
  refine ⟨List.forall₂_nil_right_iff.mp injectedProtocols,
    List.rel_append mainProtocols (List.rel_append h.kong.protocols h.http.protocols), ?_⟩
  rw [List.length_append, List.length_append, mainCommands, h.kong.commands, h.http.commands]
  rfl

theorem apiServer_eq {conf spliced body http server : List Item} (hasConf : files nginxConf = some conf)
    (isSpliced : included files conf = some spliced) (isBody : bodiesOf (text "http") spliced = [body])
    (isHttp : included files body = some http)
    (leaves : (bodiesOf (text "server") http).mapM (included files) =
      some (bodiesOf (text "server") http))
    (isServer : (bodiesOf (text "server") http).filter isApiServer = [server]) :
    apiServer files = some (http, server) := by
  unfold apiServer
  rw [hasConf, Option.bind_some, isSpliced]
  dsimp only
  rw [isBody]
  dsimp only
  rw [isHttp]
  dsimp only
  rw [leaves, Option.map_some, isServer]

/-- The one server of the API port. -/
theorem Verdict.server (h : Verdict py sections parsed main injectedMain kong injectedHttp target)
    (names : (sections.map Prod.fst).Perm expectedFiles)
    (reading : Reading files main injectedMain kong injectedHttp mainItems injectedItems kongItems
      httpItems) {body : List Item} (one : bodiesOf (text "http") mainItems = [body]) :
    ∃ server, (bodiesOf (text "server") body ++ (bodiesOf (text "server") kongItems ++
        bodiesOf (text "server") httpItems)).filter isApiServer = [server] ∧
      ServerRead target (factsOf server) := by
  obtain ⟨noInjected, servers⟩ := reading.servers one
  have all := (h.files names).flatMap_right fun e => e.2.httpServers
  simp only [List.flatMap_cons, List.flatMap_nil, noInjected, List.nil_append, List.append_nil] at all
  have targets := all.filter fun s => decide (s.targetListens ≠ 0)
  rw [h.isTarget] at targets
  have unambiguous : ∀ s ∈ main.httpServers ++ (kong.httpServers ++ injectedHttp.httpServers),
      s.ambiguous = false := by
    intro s mem
    obtain ⟨e, he, hs⟩ := List.mem_flatMap.mp (all.mem_iff.mpr mem)
    exact h.unambiguous e he s hs
  have related := filter_related servers fun s mem body read => read.api (unambiguous s mem)
  rw [← List.singleton_perm.mp targets] at related
  obtain ⟨server, rest, first, others, isServer⟩ := List.forall₂_cons_left_iff.mp related
  obtain rfl := List.forall₂_nil_left_iff.mp others
  exact ⟨server, isServer, first⟩

theorem Verdict.applies (h : Verdict py sections parsed main injectedMain kong injectedHttp target)
    (names : (sections.map Prod.fst).Perm expectedFiles)
    (reading : Reading files main injectedMain kong injectedHttp mainItems injectedItems kongItems
      httpItems) : AppliesTls13 files := by
  obtain ⟨body, one⟩ := reading.one.1
  obtain ⟨spliced, http, isSpliced, isBody, isHttp, httpArgs, httpBodies⟩ := reading.contexts one
  obtain ⟨server, isServer, read⟩ := h.server names reading one
  obtain ⟨noProtocols, protocols, commands⟩ := reading.settings one
  have perm := h.files names
  have ofFiles : ∀ {P : Section → Prop}, (∀ e ∈ parsed, P e.2) → P main ∧ P kong ∧ P injectedHttp := by
    intro P all
    refine ⟨all (nginxConf, main) ?_, all (nginxKong, kong) ?_, all (nginxKongInject, injectedHttp) ?_⟩ <;>
      exact perm.mem_iff.mpr (by simp)
  have leaves : (bodiesOf (text "server") http).mapM (included files) =
      some (bodiesOf (text "server") http) := by
    refine mapM_eq_some (List.forall₂_same.mpr fun server mem => ?_)
    exact Nginx.splice_self _ (reading.server_leaves one server (httpBodies.mem_iff.mp mem))
  have only : (bodiesOf (text "server") http).filter isApiServer = [server] := by
    have same := httpBodies.filter isApiServer
    rw [isServer] at same
    exact List.perm_singleton.mp same
  refine ⟨http, server, apiServer_eq reading.hasMain isSpliced isBody isHttp leaves only, ?_, ?_, ?_⟩
  · intro none
    obtain ⟨noHttp, noServer⟩ := List.append_eq_nil_iff.mp none
    have noSettings := httpArgs _ names_not_included.1
    rw [noHttp] at noSettings
    rw [noSettings.symm.eq_nil] at protocols
    have noTarget : List.Forall₂ ProtocolRead target.protocols [] := noServer ▸ read.protocols
    have all := perm.flatMap_right fun e => e.2.httpProtocols
    simp only [List.flatMap_cons, List.flatMap_nil, noProtocols, List.nil_append, List.append_nil,
      List.forall₂_nil_right_iff.mp protocols] at all
    refine h.nonempty ?_
    rw [all.eq_nil, List.forall₂_nil_right_iff.mp noTarget, List.append_nil]
  · intro args mem
    rcases List.mem_append.mp mem with mem | mem
    · obtain ⟨validMain, validKong, validHttp⟩ := ofFiles (P := fun r => r.httpProtocols.all id = true) h.protocols
      refine all_protocols protocols ?_ args ((httpArgs _ names_not_included.1).mem_iff.mp mem)
      rw [List.all_append, List.all_append, validMain, validKong, validHttp]
      rfl
    · exact all_protocols read.protocols h.targetProtocols args mem
  · obtain ⟨noneMain, noneKong, noneHttp⟩ := ofFiles (P := fun r => r.httpSslConfCommands = 0) h.commands
    rw [noneMain, noneKong, noneHttp] at commands
    have noHttp := httpArgs _ names_not_included.2.1
    rw [List.eq_nil_of_length_eq_zero commands.symm] at noHttp
    have noServer := read.commands
    rw [h.targetCommands] at noServer
    rw [applied, noHttp.eq_nil, List.nil_append]
    exact List.eq_nil_of_length_eq_zero noServer.symm

/-- In a dump whose files are written plainly, what the parser holds proven is what nginx
reads: one server on the API port, TLS 1.3 set for it and nothing else. -/
theorem tls_dump_sound (py : Python) (configDump : Bytes) (plain : PlainDump py configDump) :
    ProvesTls13 py configDump := by
  intro proven
  obtain ⟨sections, parsed, main, injectedMain, kong, injectedHttp, target, split, verdict⟩ :=
    parseConfigDump_proven proven
  obtain ⟨mainItems, injectedItems, kongItems, httpItems, reading⟩ :=
    verdict.reading (plain sections split)
  exact ⟨sections, split, verdict.applies (splitConfigDump_names split) reading⟩

/-! ## A directive behind two dashes -/

def fileHeader (name : String) : Bytes :=
  ascii "# configuration file " ++ ascii "/usr/local/kong/" ++ ascii name ++ ascii ":\n"

/-- The dump of a gateway whose API server holds the given lines. -/
def sampleDump (lines : Bytes) : Bytes :=
  fileHeader "nginx.conf" ++ ascii "include nginx-inject.conf;\nevents \x7b\x7d\n" ++
    ascii "http \x7b include nginx-kong.conf; \x7d\n" ++ fileHeader "nginx-inject.conf" ++
    fileHeader "nginx-kong.conf" ++ ascii "include nginx-kong-inject.conf;\n" ++
    ascii "server \x7b listen 0.0.0.0:8443 ssl;\n" ++ lines ++ ascii "\x7d\n" ++
    fileHeader "nginx-kong-inject.conf" ++ ascii "ssl_protocols TLSv1.3;\n" ++
    ascii "nginx: the configuration file " ++ ascii "/usr/local/kong/nginx.conf" ++
    ascii " syntax is ok\n" ++ ascii "nginx: configuration file " ++
    ascii "/usr/local/kong/nginx.conf" ++ ascii " test is successful\n"

/-- Braces and a setting in Lua code, in a string and in comments. -/
def decoyLines : Bytes :=
  ascii "rewrite_by_lua_block \x7b s = '\x7d' -- \x7d\n\x7d\n" ++ ascii "# ssl_protocols TLSv1.2;\n"

theorem plainDump_of_all {configDump : Bytes}
    (h : ((splitConfigDump configDump).all fun sections =>
      sections.all fun e => plainSection py e.2) = true) : PlainDump py configDump := by
  intro sections split e mem
  rw [split, Option.all_some, List.all_eq_true] at h
  exact h e mem

theorem tls_dump_sound_decoys : (parseConfigDump asciiPython (sampleDump decoyLines)).1 = true ∧
    ∃ sections, splitConfigDump (sampleDump decoyLines) = some sections ∧
      AppliesTls13 (readFile sections) := by
  have proven : (parseConfigDump asciiPython (sampleDump decoyLines)).1 = true := by decide +kernel
  have plain : PlainDump asciiPython (sampleDump decoyLines) := plainDump_of_all (by decide +kernel)
  exact ⟨proven, tls_dump_sound asciiPython (sampleDump decoyLines) plain proven⟩

/-- For the parser the first line ends at the dashes, and the number belongs to `$x`. -/
def dashedLines : Bytes := ascii "set $x --; ssl_protocols TLSv1.2; " ++ ascii "set $y\n0;\n"

def appliedProtocols (sections : List (Text × Text)) : Option (List (List Text)) :=
  (apiServer (readFile sections)).map fun e => applied (text "ssl_protocols") e.1 e.2

/-- The parser takes two dashes for a comment, and proves TLS 1.3 of a server that also
speaks TLS 1.2. -/
theorem tls_dump_hidden : ¬ ∀ py configDump, ProvesTls13 py configDump := by
  intro all
  have proven : (parseConfigDump asciiPython (sampleDump dashedLines)).1 = true := by decide +kernel
  have settings : (splitConfigDump (sampleDump dashedLines)).bind appliedProtocols =
      some [[text "TLSv1.3"], [text "TLSv1.2"]] := by
    decide +kernel
  obtain ⟨sections, split, http, server, found, -, only, -⟩ := all _ _ proven
  rw [split, Option.bind_some, appliedProtocols, found, Option.map_some, Option.some.injEq] at settings
  have wrong := only [text "TLSv1.2"] (by rw [settings]; simp)
  exact absurd wrong (by decide +kernel)

end KonnectFapi.Guarantees

import KonnectFapi.Source.Transport.Lifecycle

/-!
# Request options

Source: kong/plugins/fapi-as-mtls-transport/handler.lua:185-234 (stock identity),
850-863 (headers), 1055-1073, 1101-1157 (`set_mtls_options`). The handler works
on copies, so an option table is a value here.
-/

namespace KonnectFapi.Source.Transport
open Lib Lib.Lua

/-- What one request call sees while it runs without yielding: the marker file,
the clock and `random.bytes(16, true)`. -/
structure CallEnv where
  marker : Option Bytes
  now : Nat
  random : Option Bytes

/-- `stock_identity_matches`: certificate and key the caller already supplied. -/
def stockIdentityMatches (host : Host) (options : Table) (identity : Identity) : Bool :=
  let suppliedCert := options.get (.name "ssl_client_cert")
  let suppliedKey := options.get (.name "ssl_client_priv_key")
  if !suppliedCert.truthy && !suppliedKey.truthy then true
  else if !suppliedCert.truthy || !suppliedKey.truthy then false
  else
    match host.chainLeaf suppliedCert with
    | none => false
    | some leaf =>
      match host.certDigest leaf with
      | none => false
      | some fingerprint =>
        if fingerprint.length ≠ 32 || hex fingerprint ≠ identity.fingerprint then false
        else
          match host.pkeyCast suppliedKey with
          | none => false
          | some key => host.checkPrivateKey leaf key

/-- `set_header(headers, name, nil)`. -/
def removeNamedHeader (headers : Table) (name : Bytes) : Table :=
  headers.filter fun entry => !isNamed name entry

/-- `set_header(headers, name, value)`. -/
def setHeader (headers : Table) (name value : Bytes) : Table :=
  removeNamedHeader headers name ++ [(.str name, .str value)]

def headersHaveAssertion (headers : Table) : Bool :=
  headers.any fun entry =>
    isNamed (ascii "client_assertion") entry || isNamed (ascii "client_assertion_type") entry

def hasProxy (value : Value) : Bool :=
  value.isTable && (!(value.field "https_proxy").isNil || !(value.field "http_proxy").isNil)

def proxyConfigured (self : Value) (options : Table) : Bool :=
  hasProxy (self.field "proxy_opts") || hasProxy (options.get (.name "proxy_opts"))

/-- The option checks at the head of `set_mtls_options`. -/
def optionsAccepted (self : Value) (options : Table) : Bool :=
  (options.get (.name "path")).isNil && (options.get (.name "query")).isNil &&
    ((options.get (.name "ssl_verify")).isNil || (options.get (.name "ssl_verify")).isTrue) &&
    ((options.get (.name "ssl_server_name")).isNil ||
      (options.get (.name "ssl_server_name")).isStr (ascii "keycloak")) &&
    (options.get (.name "ssl_session")).isNil && !proxyConfigured self options

/-- `observation_id`. -/
def observationId (random : Option Bytes) : Option Bytes :=
  match random with
  | some bytes => if bytes.length = 16 then some (hex bytes) else none
  | none => none

def hostHeader : Bytes := ascii "Host"

/-- The header table `set_mtls_options` leaves, given the correlation id. -/
def transportHeaders (headers : Table) (id : Option Bytes) : Table :=
  let headers := setHeader (removeNamedHeader (removeNamedHeader headers hostHeader) correlationHeader)
    hostHeader (ascii "keycloak:8443")
  match id with
  | some id => setHeader headers correlationHeader id
  | none => headers

def poolName (epoch routeName : Bytes) (identity : Identity) : Bytes :=
  join (ascii ":") [ascii "fapi-as-mtls-transport", routeName, epoch, identity.fingerprint]

/-- The assignments at the end of `set_mtls_options`. -/
def tlsOptions (epoch : Bytes) (options headers : Table) (routeName : Bytes)
    (identity : Identity) : Table :=
  ((((((((options.set (.name "headers") (.table 0 headers)).set
    (.name "ssl_client_cert") (.other identity.certificateCdata.content)).set
    (.name "ssl_client_priv_key") (.other identity.keyCdata.content)).set
    (.name "ssl_verify") (.bool true)).set
    (.name "ssl_server_name") (.str (ascii "keycloak"))).set
    (.name "ssl_reused_session") (.bool false)).set
    (.name "keepalive") (.bool false)).set
    (.name "pool") (.str (poolName epoch routeName identity))).erase
    (.name "proxy_opts") |>.set (.name "follow_redirects") (.bool false)

/-- Results of `set_mtls_options`; joining a nil epoch into the pool name raises. -/
inductive OptionsResult where
  | refused
  | raised
  | prepared (options : Table) (correlationId : Option Bytes)

/-- `set_mtls_options`, from the correlation id on. -/
def finishOptions (s : State) (options headers : Table) (identity : Identity) (routeName : Bytes)
    (id : Option Bytes) : OptionsResult :=
  match s.registryEpoch with
  | none => .raised
  | some epoch =>
    .prepared (tlsOptions epoch options (transportHeaders headers id) routeName identity) id

def setMtlsOptions (host : Host) (s : State) (registry : Registry) (env : CallEnv) (self : Value)
    (options : Table) (identity : Identity) (routeName : Bytes) : OptionsResult :=
  if !optionsAccepted self options then .refused
  else if !stockIdentityMatches host options identity then .refused
  else
    let headers := (options.get (.name "headers")).fields
    if headersHaveAssertion
        (removeNamedHeader (removeNamedHeader headers hostHeader) correlationHeader) then .refused
    else if registry.evidenceCorrelationEnabled then
      match observationId env.random with
      | none => .refused
      | some id => finishOptions s options headers identity routeName (some id)
    else finishOptions s options headers identity routeName none

/-! ## Named headers -/

/-- Header entries that bear a name, in any letter case. -/
def namedHeaders (headers : Table) (name : Bytes) : Table := headers.filter (isNamed name)

/-- An entry bears at most one name up to letter case. -/
theorem isNamed_of_ne {a b : Bytes} (h : sameName a b = false) {entry : Key × Value}
    (hentry : isNamed a entry = true) : isNamed b entry = false := by
  unfold isNamed sameName at *
  split at hentry
  · rw [beq_iff_eq] at hentry
    rw [beq_eq_false_iff_ne] at h ⊢
    rwa [hentry]
  · cases hentry

@[simp] theorem namedHeaders_remove_self (headers : Table) (name : Bytes) :
    namedHeaders (removeNamedHeader headers name) name = [] := by
  unfold namedHeaders removeNamedHeader
  rw [List.filter_filter, List.filter_eq_nil_iff]
  intro entry _
  cases isNamed name entry <;> simp

theorem namedHeaders_remove_of_ne {name other : Bytes} (h : sameName name other = false)
    (headers : Table) :
    namedHeaders (removeNamedHeader headers other) name = namedHeaders headers name := by
  unfold namedHeaders removeNamedHeader
  rw [List.filter_filter]
  refine List.filter_congr fun entry _ => ?_
  cases hentry : isNamed name entry with
  | false => rfl
  | true => rw [isNamed_of_ne h hentry]; rfl

@[simp] theorem namedHeaders_set_self (headers : Table) (name value : Bytes) :
    namedHeaders (setHeader headers name value) name = [(.str name, .str value)] := by
  have removed := namedHeaders_remove_self headers name
  unfold namedHeaders at removed ⊢
  rw [setHeader, List.filter_append, removed]
  simp [isNamed]

theorem namedHeaders_set_of_ne {name other : Bytes} (h : sameName name other = false)
    (headers : Table) (value : Bytes) :
    namedHeaders (setHeader headers other value) name = namedHeaders headers name := by
  have removed := namedHeaders_remove_of_ne h headers
  have absent : isNamed name (.str other, .str value) = false := by
    show sameName other name = false
    rw [sameName_comm]
    exact h
  unfold namedHeaders at removed ⊢
  rw [setHeader, List.filter_append, removed]
  simp [absent]

theorem headersHaveAssertion_eq_false {headers : Table} :
    headersHaveAssertion headers = false ↔
      namedHeaders headers (ascii "client_assertion") = [] ∧
        namedHeaders headers (ascii "client_assertion_type") = [] := by
  unfold headersHaveAssertion namedHeaders
  simp only [List.any_eq_false, List.filter_eq_nil_iff, Bool.or_eq_true, not_or]
  exact ⟨fun h => ⟨fun e he => (h e he).1, fun e he => (h e he).2⟩,
    fun h e he => ⟨h.1 e he, h.2 e he⟩⟩

/-- Exactly one header names the host, and it is the server's. -/
theorem transportHeaders_host (headers : Table) (id : Option Bytes) :
    namedHeaders (transportHeaders headers id) hostHeader =
      [(.str hostHeader, .str (ascii "keycloak:8443"))] := by
  unfold transportHeaders
  cases id with
  | none => exact namedHeaders_set_self ..
  | some id =>
    dsimp only
    rw [namedHeaders_set_of_ne (by decide), namedHeaders_set_self]

/-- Header rewriting adds and removes no assertion header. -/
theorem transportHeaders_assertion {headers : Table} (id : Option Bytes)
    (h : headersHaveAssertion (removeNamedHeader (removeNamedHeader headers hostHeader)
      correlationHeader) = false) :
    headersHaveAssertion (transportHeaders headers id) = false := by
  rw [headersHaveAssertion_eq_false] at h ⊢
  unfold transportHeaders
  cases id with
  | none =>
    dsimp only
    rw [namedHeaders_set_of_ne (by decide), namedHeaders_set_of_ne (by decide)]
    exact h
  | some id =>
    dsimp only
    rw [namedHeaders_set_of_ne (by decide), namedHeaders_set_of_ne (by decide),
      namedHeaders_set_of_ne (by decide), namedHeaders_set_of_ne (by decide)]
    exact h

/-! ## What the rewritten options say -/

/-- The options that fix how the connection is made and with which identity. -/
structure TlsFixed (params : Table) (identity : Identity) : Prop where
  certificate : params.get (.name "ssl_client_cert") = .other identity.certificateCdata.content
  key : params.get (.name "ssl_client_priv_key") = .other identity.keyCdata.content
  verify : params.get (.name "ssl_verify") = .bool true
  serverName : params.get (.name "ssl_server_name") = .str (ascii "keycloak")
  noProxy : params.get (.name "proxy_opts") = .nil

/-- Option names `TlsFixed` speaks of. -/
def tlsKeys : List Key :=
  ["ssl_client_cert", "ssl_client_priv_key", "ssl_verify", "ssl_server_name", "proxy_opts"].map
    fun name => Key.name name

theorem TlsFixed.congr {params params' : Table} {identity : Identity} (h : TlsFixed params identity)
    (same : ∀ key ∈ tlsKeys, params'.get key = params.get key) : TlsFixed params' identity where
  certificate := (same _ (by decide)).trans h.certificate
  key := (same _ (by decide)).trans h.key
  verify := (same _ (by decide)).trans h.verify
  serverName := (same _ (by decide)).trans h.serverName
  noProxy := (same _ (by decide)).trans h.noProxy

theorem TlsFixed.set {params : Table} {identity : Identity} (h : TlsFixed params identity)
    {key : Key} (free : key ∉ tlsKeys) (value : Value) : TlsFixed (params.set key value) identity :=
  h.congr fun _ hname => Table.get_set_of_ne _ _ _ _ fun same => free (same ▸ hname)

theorem TlsFixed.erase {params : Table} {identity : Identity} (h : TlsFixed params identity)
    {key : Key} (free : key ∉ tlsKeys) : TlsFixed (params.erase key) identity :=
  h.congr fun _ hname => Table.get_erase_of_ne _ _ _ fun same => free (same ▸ hname)

section
variable (epoch : Bytes) (options headers : Table) (routeName : Bytes) (identity : Identity)

theorem tlsOptions_fixed :
    TlsFixed (tlsOptions epoch options headers routeName identity) identity := by
  unfold tlsOptions
  constructor <;>
    simp (disch := decide) only [Table.get_set_of_ne, Table.get_erase_of_ne, Table.get_set_self,
      Table.get_erase_self]

theorem tlsOptions_headers :
    (tlsOptions epoch options headers routeName identity).get (.name "headers") =
      .table 0 headers := by
  unfold tlsOptions
  simp (disch := decide) only [Table.get_set_of_ne, Table.get_erase_of_ne, Table.get_set_self]

/-- Options the rewriting does not mention keep the caller's value. -/
theorem tlsOptions_kept {name : Key}
    (h : name ∉ (["headers", "ssl_client_cert", "ssl_client_priv_key", "ssl_verify",
      "ssl_server_name", "ssl_reused_session", "keepalive", "pool", "proxy_opts",
      "follow_redirects"].map fun name => Key.name name)) :
    (tlsOptions epoch options headers routeName identity).get name = options.get name := by
  simp only [List.map_cons, List.map_nil, List.mem_cons, List.not_mem_nil, or_false, not_or] at h
  obtain ⟨h1, h2, h3, h4, h5, h6, h7, h8, h9, h10⟩ := h
  unfold tlsOptions
  rw [Table.get_set_of_ne _ _ _ _ h10, Table.get_erase_of_ne _ _ _ h9,
    Table.get_set_of_ne _ _ _ _ h8, Table.get_set_of_ne _ _ _ _ h7,
    Table.get_set_of_ne _ _ _ _ h6, Table.get_set_of_ne _ _ _ _ h5,
    Table.get_set_of_ne _ _ _ _ h4, Table.get_set_of_ne _ _ _ _ h3,
    Table.get_set_of_ne _ _ _ _ h2, Table.get_set_of_ne _ _ _ _ h1]

end

end KonnectFapi.Source.Transport

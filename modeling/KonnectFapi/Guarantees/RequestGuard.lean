import KonnectFapi.Lib.LuaMultimap
import KonnectFapi.Source.RequestGuard

/-!
# What the request guard lets through

Source: kong/api-gateway.yaml:47-119. The getters stop at a thousand occurrences without
a word; the count of what they returned tells whether they did. A request that goes on
was seen whole, and has lost every identity input.
-/

namespace KonnectFapi.Guarantees
open Lib Lib.Lua Source.RequestGuard

/-- A field name only the gateway may set: lower-cased and with dashes for underscores. -/
def IdentityInput (name : Bytes) : Prop :=
  normalized name = ascii "cookie" ∨
    ∃ start ∈ [ascii "x-demo-", ascii "x-fapi-", ascii "x-client-cert", ascii "client-assertion"],
      start <+: normalized name

/-- Header values are strings; the value of an argument is a string or `true`. -/
def fieldOccurrences (headers : Forwarded) : List (Bytes × Value) :=
  headers.map fun field => (field.1, .str field.2)

def argumentOccurrences (arguments : List (Bytes × Option Bytes)) : List (Bytes × Value) :=
  arguments.map fun argument => (argument.1, (argument.2.map Value.str).getD (.bool true))

/-- The getters read the first thousand occurrences into a table. Header names may be
folded in letter case on the way. -/
structure Reads (pdk : Pdk) (headers : Forwarded) (arguments : List (Bytes × Option Bytes)) :
    Prop where
  headers : ∃ fold border table, (∀ name, lower (fold name) = lower name) ∧
    (pdk.getHeaders 1000).1 = .table border table ∧
    TableOf fold ((fieldOccurrences headers).take 1000) table
  query : ∃ border table err, pdk.getQuery 1000 = some (.table border table, err) ∧
    TableOf id ((argumentOccurrences arguments).take 1000) table

/-! ## Names -/

theorem take_eq_iff {name : Bytes} (n : Nat) (start : Bytes) (h : start.length = n) :
    name.take n = start ↔ start <+: name := by
  rw [List.prefix_iff_eq_take, h, eq_comm]

theorem identityInput_iff (name : Bytes) :
    identityInput (normalized name) = true ↔ IdentityInput name := by
  unfold identityInput IdentityInput
  simp only [Bool.or_eq_true, beq_iff_eq, take_eq_iff 7 (ascii "x-demo-") rfl,
    take_eq_iff 7 (ascii "x-fapi-") rfl,
    take_eq_iff 13 (ascii "x-client-cert") rfl,
    take_eq_iff 16 (ascii "client-assertion") rfl, List.mem_cons,
    List.not_mem_nil, or_false, exists_eq_or_imp, exists_eq_left, or_assoc]

/-- The reading of a name ignores letter case. -/
theorem normalized_of_lower {a b : Bytes} (h : lower a = lower b) : normalized a = normalized b := by
  unfold normalized
  rw [h]

theorem identityInput_of_lower {a b : Bytes} (h : lower a = lower b) :
    IdentityInput a ↔ IdentityInput b := by
  unfold IdentityInput
  rw [normalized_of_lower h]

/-! ## The header loop -/

/-- A table entry whose name has the given letters. -/
def Names (table : Table) (name : Bytes) : Prop :=
  ∃ e ∈ table, ∃ n, e.1 = .str n ∧ lower name = lower n

theorem counted_eq (count : Nat) (value : Value) : counted count value = count + weight value := by
  cases value <;> simp [counted, weight]

theorem inspectHeaders_step {key : Key} {value : Value} {rest : Table} {count : Nat}
    {forwarded result : Forwarded}
    (h : inspectHeaders ((key, value) :: rest) count forwarded = .ok result) :
    count + weight value < 1000 ∧ ∃ next, inspectHeaders rest (count + weight value) next = .ok result ∧
      ∀ field, field ∈ next ↔ field ∈ forwarded ∧
        ¬ ∃ n, key = .str n ∧ lower field.1 = lower n ∧ IdentityInput n := by
  rw [inspectHeaders.eq_def] at h
  dsimp only at h
  rw [counted_eq] at h
  split at h
  · cases h
  · rename_i bound
    refine ⟨by omega, ?_⟩
    split at h
    · rename_i name
      split at h
      · rename_i identity
        refine ⟨_, h, fun field => ?_⟩
        simp only [clearHeader, List.mem_filter, sameName, Bool.not_eq_true', beq_eq_false_iff_ne]
        refine and_congr_right fun _ => not_congr ?_
        constructor
        · exact fun same => ⟨name, rfl, same, (identityInput_iff name).mp identity⟩
        · rintro ⟨n, hn, same, -⟩
          cases hn
          exact same
      · rename_i harmless
        refine ⟨_, h, fun field => (and_iff_left ?_).symm⟩
        rintro ⟨n, hn, -, identity⟩
        cases hn
        exact harmless ((identityInput_iff _).mpr identity)
    · refine ⟨_, h, fun field => (and_iff_left ?_).symm⟩
      rintro ⟨n, hn, -⟩
      cases hn
    · cases h

/-- A loop that ends counted every occurrence and cleared exactly the named identity inputs. -/
theorem inspectHeaders_ok {table : Table} {count : Nat} {forwarded result : Forwarded}
    (start : count < 1000) (h : inspectHeaders table count forwarded = .ok result) :
    count + totalWeight table < 1000 ∧
      ∀ field, field ∈ result ↔ field ∈ forwarded ∧ ¬ (Names table field.1 ∧ IdentityInput field.1) := by
  induction table generalizing count forwarded with
  | nil =>
    cases h
    refine ⟨start, fun field => (and_iff_left ?_).symm⟩
    rintro ⟨⟨e, he, -⟩, -⟩
    cases he
  | cons e rest ih =>
    obtain ⟨key, value⟩ := e
    obtain ⟨bound, next, further, cleared⟩ := inspectHeaders_step h
    obtain ⟨total, kept⟩ := ih bound further
    refine ⟨by simpa [totalWeight, Nat.add_assoc] using total, fun field => ?_⟩
    rw [kept, cleared, and_assoc, ← not_or]
    refine and_congr_right fun _ => not_congr ?_
    constructor
    · rintro (⟨n, rfl, same, identity⟩ | ⟨⟨e, he, n, hn, same⟩, identity⟩)
      · exact ⟨⟨_, List.mem_cons_self, n, rfl, same⟩, (identityInput_of_lower same).mpr identity⟩
      · exact ⟨⟨e, List.mem_cons_of_mem _ he, n, hn, same⟩, identity⟩
    · rintro ⟨⟨e, he, n, hn, same⟩, identity⟩
      rcases List.mem_cons.mp he with rfl | he
      · exact Or.inl ⟨n, hn, same, (identityInput_of_lower same).mp identity⟩
      · exact Or.inr ⟨⟨e, he, n, hn, same⟩, identity⟩

/-! ## The query loop -/

theorem indices_occurrences {entries : Table} {start occurrences : Nat} {highest top : Rat}
    (h : indices entries start highest = some (occurrences, top)) :
    occurrences = start + entries.length := by
  induction entries generalizing start highest with
  | nil =>
    cases h
    rfl
  | cons e rest ih =>
    rw [indices] at h
    split at h
    · rw [ih h, List.length_cons]
      omega
    · cases h

/-- An array is counted by its entries, which are as many as its values. -/
theorem occurrencesOf_holds {value : Value} {vs : List Value} {n : Nat} (holds : Holds value vs)
    (h : occurrencesOf value = some n) : n = weight value := by
  cases holds with
  | single v plain =>
    cases value with
    | table => cases plain
    | str s | bool b =>
      cases h
      rfl
    | nil | num | other => cases h
  | array _ entries several order =>
    unfold occurrencesOf at h
    dsimp only at h
    split at h
    · rename_i occurrences highest walked
      split at h
      · cases h
      · cases h
        rw [indices_occurrences walked, order.length_eq]
        simp [indexed, weight]
    · cases h

/-- A loop that ends met no token name and counted every occurrence. -/
theorem inspectQuery_ok {table : Table} {count : Nat} (start : count < 1000)
    (shapes : ∀ e ∈ table, ∃ vs, Holds e.2 vs) (h : inspectQuery table count = .ok ()) :
    count + totalWeight table < 1000 ∧
      ∀ e ∈ table, ∀ name, e.1 = .str name → normalized name ≠ ascii "access-token" := by
  induction table generalizing count with
  | nil => exact ⟨start, fun e he => by cases he⟩
  | cons e rest ih =>
    obtain ⟨key, value⟩ := e
    obtain ⟨⟨vs, holds⟩, others⟩ := List.forall_mem_cons.mp shapes
    rw [inspectQuery.eq_def] at h
    dsimp only at h
    split at h
    · rename_i name
      split at h
      · cases h
      · rename_i harmless
        split at h
        · rename_i occurrences shape
          split at h
          · cases h
          · rename_i bound
            obtain rfl := occurrencesOf_holds holds shape
            obtain ⟨total, names⟩ := ih (by omega) others h
            refine ⟨by simpa [totalWeight, Nat.add_assoc] using total, ?_⟩
            refine List.forall_mem_cons.mpr ⟨?_, names⟩
            intro other same
            cases same
            exact harmless
        · cases h
    · cases h

/-! ## The request -/

theorem access_ok {pdk : Pdk} {forwarded result : Forwarded} (h : access pdk forwarded = .ok result) :
    ∃ border headers border' arguments, (pdk.getHeaders 1000).1 = .table border headers ∧
      inspectHeaders headers 0 forwarded = .ok result ∧
      pdk.getQuery 1000 = some (.table border' arguments, .nil) ∧ inspectQuery arguments 0 = .ok () := by
  unfold access at h
  dsimp only at h
  split at h
  · cases h
  · split at h
    · rename_i border entries read
      split at h
      · cases h
      · rename_i kept inspected
        split at h
        · rename_i border' arguments queried
          split at h
          · cases h
          · rename_i accepted
            cases h
            exact ⟨border, entries, border', arguments, read, inspected, queried, accepted⟩
        · cases h
    · cases h

/-- A getter that returned fewer than its limit returned everything. -/
theorem take_whole {α : Type} {l : List α} {n : Nat} (h : (l.take n).length < n) :
    l.take n = l ∧ l.length < n := by
  rw [List.length_take] at h
  have short : l.length < n := by omega
  exact ⟨List.take_of_length_le (Nat.le_of_lt short), short⟩

/-- What holds of a request that goes on. -/
structure GuardedForward (headers : Forwarded) (arguments : List (Bytes × Option Bytes))
    (forwarded : Forwarded) : Prop where
  clean : ∀ field ∈ forwarded, ¬ IdentityInput field.1
  kept : ∀ field, field ∈ forwarded ↔ field ∈ headers ∧ ¬ IdentityInput field.1
  query : ∀ argument ∈ arguments, normalized argument.1 ≠ ascii "access-token"
  headerCount : headers.length < 1000
  queryCount : arguments.length < 1000

/-- A request that goes on carries no identity input, in its fields or its query, and has
fewer than a thousand of either. -/
theorem request_guarded (pdk : Pdk) (headers forwarded : Forwarded)
    (arguments : List (Bytes × Option Bytes)) (reads : Reads pdk headers arguments)
    (goesOn : access pdk headers = .ok forwarded) : GuardedForward headers arguments forwarded := by
  obtain ⟨border, table, border', queryTable, read, inspected, queried, accepted⟩ := access_ok goesOn
  obtain ⟨fold, _, _, folds, read', headerTable⟩ := reads.headers
  cases read.symm.trans read'
  obtain ⟨_, _, err, queried', argumentTable⟩ := reads.query
  cases queried.symm.trans queried'
  obtain ⟨headerTotal, cleared⟩ := inspectHeaders_ok (by omega) inspected
  obtain ⟨queryTotal, names⟩ := inspectQuery_ok (by omega)
    (fun e he => ⟨_, argumentTable.values e he⟩) accepted
  rw [headerTable.totalWeight_eq, Nat.zero_add] at headerTotal
  rw [argumentTable.totalWeight_eq, Nat.zero_add] at queryTotal
  obtain ⟨allHeaders, headerCount⟩ := take_whole headerTotal
  obtain ⟨allArguments, queryCount⟩ := take_whole queryTotal
  rw [allHeaders] at headerTable
  rw [allArguments] at argumentTable
  have named : ∀ field ∈ headers, Names table field.1 := by
    intro field hfield
    have occurs : (field.1, Value.str field.2) ∈ fieldOccurrences headers :=
      List.mem_map_of_mem (f := fun field : Bytes × Bytes => (field.1, Value.str field.2)) hfield
    obtain ⟨value, entry⟩ := headerTable.mem_of_mem occurs
    exact ⟨_, entry, _, rfl, (folds field.1).symm⟩
  have kept : ∀ field, field ∈ forwarded ↔ field ∈ headers ∧ ¬ IdentityInput field.1 := by
    intro field
    rw [cleared]
    refine and_congr_right fun hfield => not_congr (and_iff_right (named field hfield))
  refine ⟨fun field hfield => ((kept field).mp hfield).2, kept, ?_, ?_, ?_⟩
  · intro argument hargument
    have occurs := List.mem_map_of_mem
      (f := fun argument : Bytes × Option Bytes =>
        (argument.1, (argument.2.map Value.str).getD (.bool true))) hargument
    obtain ⟨value, entry⟩ := argumentTable.mem_of_mem occurs
    exact names _ entry _ rfl
  · simpa [fieldOccurrences] using headerCount
  · simpa [argumentOccurrences] using queryCount

/-! ## One request -/

def spoofedHeaders : Forwarded :=
  [(ascii "Cookie", ascii "a"), (ascii "X_Demo_Route", ascii "b"), (ascii "Accept", ascii "c"),
    (ascii "COOKIE", ascii "d")]

def plainArguments : List (Bytes × Option Bytes) :=
  [(ascii "probe", some (ascii "x")), (ascii "flag", none), (ascii "probe", some (ascii "y"))]

def arrayOf (vs : List Value) : Value := .table vs.length (indexed vs)

def readHeaders : Table :=
  [(.str (ascii "accept"), .str (ascii "c")),
    (.str (ascii "cookie"), arrayOf [.str (ascii "a"), .str (ascii "d")]),
    (.str (ascii "x_demo_route"), .str (ascii "b"))]

def readArguments : Table :=
  [(.str (ascii "probe"), arrayOf [.str (ascii "x"), .str (ascii "y")]),
    (.str (ascii "flag"), .bool true)]

def readingPdk : Pdk where
  getHeaders _ := (.table 0 readHeaders, .nil)
  getQuery _ := some (.table 0 readArguments, .nil)

theorem holds_arrayOf (vs : List Value) (several : 2 ≤ vs.length) : Holds (arrayOf vs) vs :=
  .array vs (indexed vs) several (List.Perm.refl _)

theorem readHeaders_tableOf : TableOf lower (fieldOccurrences spoofedHeaders) readHeaders where
  distinct := by decide
  names key := by
    simp only [readHeaders, fieldOccurrences, spoofedHeaders, List.map_cons, List.map_nil,
      List.mem_cons, List.not_mem_nil, or_false, exists_eq_or_imp, exists_eq_left]
    have cookie : lower (ascii "Cookie") = ascii "cookie" := by decide
    have capitals : lower (ascii "COOKIE") = ascii "cookie" := by decide
    have route : lower (ascii "X_Demo_Route") = ascii "x_demo_route" := by decide
    have accept : lower (ascii "Accept") = ascii "accept" := by decide
    rw [cookie, capitals, route, accept]
    tauto
  values := by
    have single : ∀ s, Holds (.str s) [.str s] := fun s => .single _ rfl
    exact List.forall_mem_cons.mpr ⟨single _, List.forall_mem_cons.mpr
      ⟨holds_arrayOf [.str (ascii "a"), .str (ascii "d")] (by decide), List.forall_mem_cons.mpr
        ⟨single _, fun e he => by cases he⟩⟩⟩

theorem readArguments_tableOf : TableOf id (argumentOccurrences plainArguments) readArguments where
  distinct := by decide
  names key := by
    simp only [readArguments, argumentOccurrences, plainArguments, List.map_cons, List.map_nil,
      List.mem_cons, List.not_mem_nil, or_false, exists_eq_or_imp, exists_eq_left, id_eq]
    tauto
  values := List.forall_mem_cons.mpr
    ⟨holds_arrayOf [.str (ascii "x"), .str (ascii "y")] (by decide), List.forall_mem_cons.mpr
      ⟨.single _ rfl, fun e he => by cases he⟩⟩

theorem request_guarded_spoofed :
    GuardedForward spoofedHeaders plainArguments [(ascii "Accept", ascii "c")] :=
  request_guarded readingPdk spoofedHeaders [(ascii "Accept", ascii "c")] plainArguments
    ⟨⟨lower, 0, readHeaders, lower_lower, rfl, readHeaders_tableOf⟩,
      ⟨0, readArguments, .nil, rfl, readArguments_tableOf⟩⟩ (by decide +kernel)

end KonnectFapi.Guarantees

import KonnectFapi.Lib.JsonCanonical
import KonnectFapi.Source.EvidenceFetch

/-!
# Errors of the evidence exchange

Source: third-party-backend/app.py:103-183. However the upstream behaves, the exchange
ends with one of five answers and a closed connection. The one that carries evidence is
a function of the thirteen whitelisted fields alone.
-/

namespace KonnectFapi.Guarantees
open Lib Source.ThirdPartyBackend

/-- The object a response carries, as it was written: repeated names are still there. -/
def document (connection : Connection) : Option Members :=
  match connection.getresponse with
  | .error _ => none
  | .ok response =>
    match response.read (maxResponseBytes + 1) with
    | .error _ => none
    | .ok body =>
      match (decodeUtf8 body).bind (Json.loads Json.pairs) with
      | some (.obj source) => some source
      | _ => none

/-- A response that may be answered with evidence. -/
structure AcceptableResponse (response : ConnectionResponse) : Prop where
  ok : response.status = 200
  json : ∃ contentType, getAll response.headers (text "Content-Type") = [contentType] ∧
    mediaType contentType = text "application/json"
  size : ∃ body, response.read (maxResponseBytes + 1) = .ok body ∧ body.length ≤ maxResponseBytes

structure AcceptedEvidence (connection : Connection) (expected : Expected) (source : Members) :
    Prop where
  response : ∃ response, connection.getresponse = .ok response ∧ AcceptableResponse response
  object : document connection = some source
  distinct : Json.Unique (.obj source)
  fields : Projectable source expected

inductive Answer (connection : Connection) (expected : Expected) : Nat × Json → Prop
  | evidence (source : Members) (accepted : AcceptedEvidence connection expected source) :
      Answer connection expected (200, .obj (selected source))
  | unauthorized (status : Nat) (refused : status = 401 ∨ status = 403) :
      Answer connection expected (status, errorBody "upstream_unauthorized")
  | unavailable : Answer connection expected (502, errorBody "upstream_unavailable")
  | timedOut : Answer connection expected (504, errorBody "upstream_timeout")

/-! ## The suite -/

/-- How the suite ends: with an answer, or with an exception its clauses name. -/
inductive SuiteEnd (connection : Connection) (expected : Expected) :
    Except ExceptionClass (Nat × Json) → Prop
  | answered (answer : Nat × Json) (known : Answer connection expected answer) :
      SuiteEnd connection expected (.ok answer)
  | failed (raised : ConnectionError) : SuiteEnd connection expected (.error raised.exception)
  | rejected : SuiteEnd connection expected (.error .rejectedEvidence)

theorem perform_end {α : Type} {P : Except ExceptionClass (Nat × Json) → Prop} {call : Call}
    {outcome : Except ConnectionError α} {next : α → Exchange}
    (failed : ∀ raised : ConnectionError, P (.error raised.exception))
    (answered : ∀ a, outcome = .ok a → P (next a).result) :
    P (Exchange.perform call outcome next).result := by
  cases outcome with
  | error raised => exact failed raised
  | ok a => exact answered a rfl

theorem perform_open {α : Type} {call : Call} {outcome : Except ConnectionError α}
    {next : α → Exchange} (open_ : call ≠ .close) (after : ∀ a, .close ∉ (next a).calls) :
    .close ∉ (Exchange.perform call outcome next).calls := by
  cases outcome with
  | error raised => simpa [Exchange.perform] using Ne.symm open_
  | ok a => simpa [Exchange.perform] using ⟨Ne.symm open_, after a⟩

theorem readObject_ok {limits : Text → Option Limit} {body : Bytes} {v : Json}
    (h : readObject limits body = .ok v) :
    ∃ t, decodeUtf8 body = some t ∧ Json.loads Json.unique t = some v := by
  unfold readObject at h
  split at h
  · cases h
  · rename_i t decoded
    split at h
    · cases h
    · split at h
      · cases h
      · rename_i found loaded
        cases h
        exact ⟨t, decoded, loaded⟩

/-- Whatever reading the document raises is one of the classes its clause names. -/
theorem readObject_caught {limits : Text → Option Limit} {body : Bytes} {raised : ExceptionClass}
    (h : readObject limits body = .error raised) :
    raised.caughtBy [.unicodeError, .valueError, .recursionError] = true := by
  unfold readObject at h
  split at h
  · cases h
    rfl
  · split at h
    · rename_i limit exceeded
      cases h
      cases limit <;> rfl
    · split at h
      · cases h
        rfl
      · cases h

theorem projectEvidenceRaising_error {limits : Text → Option Limit} {body : Bytes}
    {expected : Expected} {raised : ExceptionClass}
    (h : projectEvidenceRaising limits body expected = .error raised) :
    raised = .rejectedEvidence := by
  unfold projectEvidenceRaising at h
  split at h
  · rename_i inner failed
    rw [if_pos (readObject_caught failed)] at h
    cases h
    rfl
  · split at h
    · cases h
    · cases h
      rfl
  · cases h
    rfl

/-- What a projection says about the bytes it was made from. -/
theorem projectEvidenceRaising_ok {limits : Text → Option Limit} {body : Bytes}
    {expected : Expected} {result : Members}
    (h : projectEvidenceRaising limits body expected = .ok result) :
    ∃ source, (decodeUtf8 body).bind (Json.loads Json.pairs) = some (.obj source) ∧
      Json.Unique (.obj source) ∧ Projectable source expected ∧ result = selected source := by
  unfold projectEvidenceRaising at h
  split at h
  · split at h <;> cases h
  · rename_i source read
    split at h
    · rename_i made projected
      cases h
      obtain ⟨t, decoded, loaded⟩ := readObject_ok read
      obtain ⟨good, same⟩ := (projectObject_iff source result expected).mp projected
      refine ⟨source, ?_, Json.unique_of_loads (Json.scalar_decodeUtf8 decoded) loaded, good, same⟩
      rw [decoded]
      exact Json.loads_pairs loaded
    · cases h
  · cases h

theorem readBody_end (limits : Text → Option Limit) {connection : Connection}
    {response : ConnectionResponse} (expected : Expected)
    (responds : connection.getresponse = .ok response) (ok : response.status = 200)
    {contentType : Text} (single : getAll response.headers (text "Content-Type") = [contentType])
    (json : mediaType contentType = text "application/json") (declared : Option Nat) :
    SuiteEnd connection expected (readBody limits response declared expected).result := by
  unfold readBody
  apply perform_end
  · exact SuiteEnd.failed
  · intro body read
    split
    · exact .rejected
    · rename_i size
      split
      · rename_i result projected
        obtain ⟨source, written, distinct, good, rfl⟩ := projectEvidenceRaising_ok projected
        refine .answered _ (.evidence source ⟨⟨response, responds, ok, ⟨contentType, single, json⟩,
          body, read, by omega⟩, ?_, distinct, good⟩)
        unfold document
        rw [responds]
        dsimp only
        rw [read]
        dsimp only
        rw [written]
      · rename_i raised projected
        obtain rfl := projectEvidenceRaising_error projected
        exact .rejected

theorem readResponse_end (limits : Text → Option Limit) {connection : Connection}
    {response : ConnectionResponse} (expected : Expected)
    (responds : connection.getresponse = .ok response) :
    SuiteEnd connection expected (readResponse limits response expected).result := by
  unfold readResponse
  split
  · rename_i refused
    exact .answered _ (.unauthorized response.status refused)
  · split
    · exact .answered _ .unavailable
    · rename_i ok
      split
      · rename_i contentType declared single length
        split
        · exact .rejected
        · rename_i json
          exact readBody_end limits expected responds (not_not.mp ok) single (not_not.mp json) declared
      · exact .rejected

theorem attempt_end (limits : Text → Option Limit) (connection : Connection) (token : Text)
    (expected : Expected) :
    SuiteEnd connection expected (connection.attempt limits token expected).result := by
  unfold Connection.attempt
  refine perform_end .failed fun _ _ => ?_
  refine perform_end .failed fun _ _ => ?_
  refine perform_end .failed fun _ _ => ?_
  refine perform_end .failed fun _ _ => ?_
  exact perform_end .failed fun response responds => readResponse_end limits expected responds

/-- The suite does not close the connection itself. -/
theorem attempt_open (limits : Text → Option Limit) (connection : Connection) (token : Text)
    (expected : Expected) : .close ∉ (connection.attempt limits token expected).calls := by
  have answers : ∀ status body, .close ∉ (Exchange.answer status body).calls :=
    fun _ _ => List.not_mem_nil
  have raises : ∀ raised, .close ∉ (Exchange.raise raised).calls := fun _ => List.not_mem_nil
  unfold Connection.attempt
  refine perform_open (by simp) fun _ => ?_
  refine perform_open (by simp) fun _ => ?_
  refine perform_open (by simp) fun _ => ?_
  refine perform_open (by simp) fun _ => ?_
  refine perform_open (by simp) fun response => ?_
  unfold readResponse
  split
  · exact answers _ _
  · split
    · exact answers _ _
    · split
      · split
        · exact raises _
        · unfold readBody
          refine perform_open (by simp) fun body => ?_
          split
          · exact raises _
          · split
            · exact answers _ _
            · exact raises _
      · exact raises _

/-! ## The answer in one piece

Within the interpreter's limits the exchange answers what the exchange without exception
classes does. -/

theorem projectEvidenceRaising_eq (body : Bytes) (expected : Expected) :
    projectEvidenceRaising (fun _ => none) body expected =
      match projectEvidence body expected with
      | .ok result => .ok result
      | .error _ => .error .rejectedEvidence := by
  unfold projectEvidenceRaising readObject projectEvidence
  cases decodeUtf8 body with
  | none => rfl
  | some t =>
    dsimp only [Option.bind_some]
    cases Json.loads Json.unique t with
    | none => rfl
    | some v =>
      cases v with
      | obj source =>
        cases projected : projectObject source expected with
        | error e => simp only [projected]
        | ok result => simp only [projected]
      | null | bool | int | float | str | arr => rfl

theorem clauses_perform {α : Type} {expected : Expected} {call : Call}
    {outcome : Except ConnectionError α} {next : α → Exchange}
    {rest : α → Except ConnectionError UpstreamResponse}
    (same : ∀ a, clauses (next a).result =
      .ok (fetchEvidence ((rest a).mapError ConnectionError.fault) expected)) :
    clauses (Exchange.perform call outcome next).result =
      .ok (fetchEvidence ((outcome >>= rest).mapError ConnectionError.fault) expected) := by
  cases outcome with
  | error raised => cases raised <;> rfl
  | ok a => exact same a

theorem clauses_readBody (response : ConnectionResponse) (declared : Option Nat)
    (expected : Expected) :
    clauses (readBody (fun _ => none) response declared expected).result = .ok
      (match response.upstream.read (maxResponseBytes + 1) with
      | .error .timeout => (504, errorBody "upstream_timeout")
      | .error _ => unavailable
      | .ok body =>
        if maxResponseBytes < body.length ∨ declared.any (· ≠ body.length) then unavailable
        else
          match projectEvidence body expected with
          | .ok result => (200, .obj result)
          | .error _ => unavailable) := by
  unfold readBody ConnectionResponse.upstream
  dsimp only
  cases response.read (maxResponseBytes + 1) with
  | error raised => cases raised <;> rfl
  | ok body =>
    simp only [Exchange.perform, Except.mapError, projectEvidenceRaising_eq]
    split
    · rfl
    · cases projectEvidence body expected <;> rfl

theorem clauses_readResponse (response : ConnectionResponse) (expected : Expected) :
    clauses (readResponse (fun _ => none) response expected).result =
      .ok (fetchEvidence (.ok response.upstream) expected) := by
  have bodies := fun declared => clauses_readBody response declared expected
  have headers : response.upstream.headers = response.headers := rfl
  have status : response.upstream.status = response.status := rfl
  unfold readResponse fetchEvidence
  dsimp only
  rw [headers, status]
  split
  · rfl
  · split
    · rfl
    · generalize getAll response.headers (text "Content-Type") = types
      generalize declaredLength (getAll response.headers (text "Content-Length")) = lengths
      rcases types with _ | ⟨contentType, _ | ⟨second, more⟩⟩ <;> rcases lengths with _ | declared
      case cons.nil.some =>
        by_cases json : mediaType contentType = text "application/json"
        · simp only [json, ne_eq, not_true_eq_false, if_false]
          exact bodies declared
        · simp only [json, ne_eq, not_false_eq_true, if_true]
          rfl
      all_goals rfl

theorem fetchEvidence_eq (connection : Connection) (token : Text) (expected : Expected) :
    (connection.fetchEvidence (fun _ => none) token expected).result =
      .ok (fetchEvidence ((connection.exchange token).mapError ConnectionError.fault) expected) := by
  unfold Connection.fetchEvidence Connection.attempt Connection.exchange
  dsimp only
  refine clauses_perform fun _ => ?_
  refine clauses_perform fun _ => ?_
  refine clauses_perform fun _ => ?_
  refine clauses_perform fun _ => ?_
  exact clauses_perform fun response => clauses_readResponse response expected

/-! ## The mapping -/

/-- One exchange: it answers, and the connection is closed once, at the end. -/
structure Mapped (limits : Text → Option Limit) (connection : Connection) (token : Text)
    (expected : Expected) : Prop where
  answers : ∃ answer, (connection.fetchEvidence limits token expected).result = .ok answer ∧
    Answer connection expected answer
  closes : ∃ calls, (connection.fetchEvidence limits token expected).calls = calls ++ [.close] ∧
    .close ∉ calls

theorem fetchEvidence_answers (limits : Text → Option Limit) (connection : Connection) (token : Text)
    (expected : Expected) :
    ∃ answer, (connection.fetchEvidence limits token expected).result = .ok answer ∧
      Answer connection expected answer := by
  have suite := attempt_end limits connection token expected
  unfold Connection.fetchEvidence
  dsimp only
  generalize (connection.attempt limits token expected).result = ending at suite
  cases suite with
  | answered answer known => exact ⟨answer, rfl, known⟩
  | rejected => exact ⟨_, rfl, .unavailable⟩
  | failed raised =>
    cases raised with
    | timeout => exact ⟨_, rfl, .timedOut⟩
    | tls | os | http => exact ⟨_, rfl, .unavailable⟩

/-- Evidence is the selection of the response's own object. -/
theorem fetchEvidence_evidence {limits : Text → Option Limit} {connection : Connection}
    {token : Text} {expected : Expected} {body : Json}
    (h : (connection.fetchEvidence limits token expected).result = .ok (200, body)) :
    ∃ source, document connection = some source ∧ body = .obj (selected source) := by
  obtain ⟨answer, result, known⟩ := fetchEvidence_answers limits connection token expected
  cases result.symm.trans h
  cases known with
  | evidence source accepted => exact ⟨source, accepted.object, rfl⟩
  | unauthorized status refused => omega

/-- Every exchange is mapped to an answer and closed, and evidence depends on nothing but
the whitelisted fields: not on the token, another field, a header or the route asked for. -/
theorem error_mapping (limits : Text → Option Limit) :
    (∀ connection token expected, Mapped limits connection token expected) ∧
    ∀ (connection connection' : Connection) (token token' : Text) (expected expected' : Expected)
      (body body' : Json),
      (connection.fetchEvidence limits token expected).result = .ok (200, body) →
      (connection'.fetchEvidence limits token' expected').result = .ok (200, body') →
      (∀ name ∈ whitelist, (document connection).bind (·.lookup name) =
        (document connection').bind (·.lookup name)) →
      body = body' := by
  constructor
  · intro connection token expected
    exact ⟨fetchEvidence_answers limits connection token expected,
      _, rfl, attempt_open limits connection token expected⟩
  · intro connection connection' token token' expected expected' body body' first second agree
    obtain ⟨source, object, rfl⟩ := fetchEvidence_evidence first
    obtain ⟨source', object', rfl⟩ := fetchEvidence_evidence second
    rw [object, object'] at agree
    rw [selected_congr agree]

end KonnectFapi.Guarantees

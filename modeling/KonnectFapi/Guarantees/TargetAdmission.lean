import KonnectFapi.Source.Targets

/-!
# Endpoints and targets that are admitted

Source: scripts/wp1.py:38-105. An admitted endpoint is one HTTPS authority and
nothing else exactly when it is spelled without the delimiters, characters and
ports that splitting a URL leaves unseen.
-/

namespace KonnectFapi.Guarantees
open Lib Lib.Json Source.Targets

/-! ## What an endpoint should be -/

def isHostPoint (c : CodePoint) : Bool :=
  isLetterPoint c || isDigitPoint c || c.val == 45 || c.val == 46

/-- Visible ASCII that delimits nothing. -/
def isLiteralPoint (c : CodePoint) : Bool :=
  33 ≤ c.val && c.val ≤ 126 && !endsAuthority c && c != atSign && c != opening && c != closing

/-- A host as it is spelled in a URL, and the host itself. -/
inductive HostSpelling (py : Python) : Text → Text → Prop where
  | name (host : Text) (nonempty : host ≠ []) (points : ∀ c ∈ host, isHostPoint c = true) :
      HostSpelling py host host
  | literal (host : Text) (address : py.isAddress host = true)
      (points : ∀ c ∈ host, isLiteralPoint c = true) :
      HostSpelling py (opening :: host ++ [closing]) host

/-- `https://`, a host, perhaps its default port and a slash, and nothing else. -/
structure Unambiguous (py : Python) (value host : Text) : Prop where
  parts : ∃ scheme spelled bare port slash, value = scheme ++ text "://" ++ spelled ++ port ++ slash ∧
    lowerText scheme = text "https" ∧ HostSpelling py spelled bare ∧
    (port = [] ∨ port = text ":443") ∧ (slash = [] ∨ slash = text "/") ∧ host = lowerText bare

/-! ## How it is spelled -/

/-- What stands between `https://` and the next delimiter. -/
def authority (value : Text) : Text := (value.drop 8).takeWhile (!endsAuthority ·)

/-- No empty query or fragment, no other character in the host, no empty and no padded port. -/
structure PlainSpelling (value : Text) : Prop where
  delimiters : question ∉ value ∧ hashSign ∉ value
  points : ∀ c ∈ (hostInfo (authority value)).1,
    (if opening ∈ authority value then isLiteralPoint c else isHostPoint c) = true
  port : ∀ port ∈ (hostInfo (authority value)).2, port = text "443"
  noColon : (authority value).getLast? ≠ some colon

/-! ## What is admitted -/

/-- What the checks of `endpoint_host` have established. -/
structure AdmittedEndpoint (py : Python) (value host : Text) : Prop where
  parts : ∃ scheme netloc path queried marked,
    value = scheme ++ text "://" ++ netloc ++ (path ++ queried ++ marked) ∧
    lowerText scheme = text "https" ∧ (path = [] ∨ path = text "/") ∧
    (queried = [] ∨ queried = [question]) ∧ (marked = [] ∨ marked = [hashSign]) ∧
    (∀ c ∈ netloc, endsAuthority c = false) ∧ checkNetloc py netloc = true ∧
    atSign ∉ netloc ∧ (hostInfo netloc).1 ≠ [] ∧
    host = py.lower (lowerHost py (hostInfo netloc).1)

theorem head_of_strip {t : Text} (h : t = strip t) : ∀ c ∈ t.head?, isSpacePoint c = false := by
  cases t with
  | nil => rintro _ ⟨⟩
  | cons c rest =>
    rintro _ ⟨⟩
    by_contra blank
    rw [Bool.not_eq_false] at blank
    have shorter : (strip (c :: rest)).length ≤ rest.length := by
      unfold strip
      rw [List.dropWhile_cons_of_pos blank]
      exact (List.rdropWhile_prefix _ _).length_le.trans (List.dropWhile_sublist _).length_le
    rw [← h, List.length_cons] at shorter
    omega

theorem endpointHost_admitted {py : Python} {value host : Text}
    (h : endpointHost py (.str value) = .ok host) : AdmittedEndpoint py value host := by
  unfold endpointHost at h
  obtain ⟨plain, h⟩ := require_bind.mp h
  simp only [Bool.and_eq_true, decide_eq_true_eq, Bool.not_eq_true', List.any_eq_false] at plain
  obtain ⟨⟨nonempty, stripped⟩, clean⟩ := plain
  split at h
  · cases h
  rename_i parsed hparsed
  split at h
  · cases h
  rename_i port hport
  obtain ⟨checks, h⟩ := require_bind.mp h
  cases h
  simp only [Bool.and_eq_true, Bool.or_eq_true, decide_eq_true_eq, Option.isNone_iff_eq_none]
    at checks
  obtain ⟨⟨⟨⟨⟨⟨⟨scheme, hostname⟩, username⟩, -⟩, query⟩, fragment⟩, path⟩, -⟩ := checks
  have named : (hostInfo parsed.netloc).1 ≠ [] := by
    intro empty
    apply hostname
    simp [SplitResult.hostname, empty]
  have netloc : parsed.netloc ≠ [] := by
    intro empty
    apply named
    rw [empty]
    decide
  have unsafeFree : withoutUnsafe value = value := by
    have printable : ∀ c ∈ value, 32 ≤ c.val := by
      intro c hc
      have := clean c hc
      simp only [isControl, Bool.or_eq_true, decide_eq_true_eq, not_or] at this
      omega
    refine withoutUnsafe_eq_self (fun c first => ?_) printable
    have notSpace := head_of_strip stripped c first
    have := printable c (List.mem_of_mem_head? first)
    simp only [isSpacePoint, Bool.or_eq_false_iff, Bool.and_eq_false_iff,
      decide_eq_false_iff_not] at notSpace
    omega
  have split := urlsplit_split unsafeFree hparsed (by rw [scheme]; decide) netloc
  obtain ⟨spelled, tail, hvalue, lowered, -, queried, marked, htail, hquery, hmark⟩ := split.parts
  refine ⟨spelled, parsed.netloc, parsed.path, queried, marked, by rw [hvalue, htail], by rw [lowered, scheme],
    path, ?_, ?_, split.netloc, split.checked, ?_, named, ?_⟩
  · rcases hquery with ⟨none, -⟩ | some
    · exact Or.inl none
    · exact Or.inr (by rw [some, query])
  · rcases hmark with ⟨none, -⟩ | some
    · exact Or.inl none
    · exact Or.inr (by rw [some, fragment])
  · intro mem
    have given : parsed.netloc.contains atSign = true := by simpa using mem
    unfold userInfo at username
    rw [if_pos given] at username
    split at username <;> cases username
  · have name : parsed.hostname py = some (lowerHost py (hostInfo parsed.netloc).1) := if_neg named
    rw [name]
    rfl

/-! ## Spelling -/

theorem authority_eq {value scheme netloc tail : Text}
    (parts : value = scheme ++ text "://" ++ netloc ++ tail)
    (https : lowerText scheme = text "https") (plain : ∀ c ∈ netloc, endsAuthority c = false)
    (delimited : Trailing tail) : authority value = netloc := by
  have five : scheme.length = 5 := by
    rw [← lowerText_length, https]
    decide +kernel
  have eight : (scheme ++ text "://").length = 8 := by
    rw [List.length_append, five]
    decide +kernel
  have inside : ∀ c ∈ netloc, (!endsAuthority c) = true := fun c hc => by rw [plain c hc]; rfl
  rw [authority, parts, List.append_assoc, ← eight, List.drop_left,
    List.takeWhile_append_of_pos inside]
  rcases delimited with rfl | ⟨c, rest, rfl, ends⟩
  · simp
  · simp [ends]

theorem endsAuthority_of_literal {c : CodePoint} (h : isLiteralPoint c = true) :
    endsAuthority c = false ∧ c ≠ atSign ∧ c ≠ opening ∧ c ≠ closing ∧ c.val < 128 := by
  simp only [isLiteralPoint, Bool.and_eq_true, Bool.not_eq_true', bne_iff_ne, decide_eq_true_eq] at h
  exact ⟨h.1.1.1.2, h.1.1.2, h.1.2, h.2, by omega⟩

theorem of_hostPoint {c : CodePoint} (h : isHostPoint c = true) :
    endsAuthority c = false ∧ c ≠ atSign ∧ c ≠ opening ∧ c ≠ colon ∧ c.val < 128 := by
  have bounds : c.val < 128 ∧ 45 ≤ c.val ∧ c.val ≠ 47 ∧ c.val ≠ 63 ∧ c.val ≠ 64 ∧ c.val ≠ 91 ∧
      c.val ≠ 58 := by
    simp only [isHostPoint, isLetterPoint, isDigitPoint, Bool.or_eq_true, Bool.and_eq_true,
      decide_eq_true_eq, beq_iff_eq] at h
    omega
  have apart : ∀ d : CodePoint, c.val ≠ d.val → c ≠ d := fun d h same => h (same ▸ rfl)
  refine ⟨?_, apart _ ?_, apart _ ?_, apart _ ?_, bounds.1⟩
  · simp only [endsAuthority, Bool.or_eq_false_iff, beq_eq_false_iff_ne]
    refine ⟨⟨apart _ ?_, apart _ ?_⟩, apart _ ?_⟩ <;> simp <;> omega
  all_goals (simp; omega)

/-- An admitted endpoint that is plainly spelled is one authority. -/
theorem AdmittedEndpoint.unambiguous {py : Python} {value host : Text}
    (h : AdmittedEndpoint py value host) (plain : PlainSpelling value) :
    Unambiguous py value host := by
  obtain ⟨scheme, netloc, path, queried, marked, parts, https, isPath, isQuery, isMark, inside,
    checked, user, named, result⟩ := h.parts
  have noQuery : queried = [] := by
    refine isQuery.resolve_right fun is => plain.delimiters.1 ?_
    rw [parts, is]
    simp
  have noMark : marked = [] := by
    refine isMark.resolve_right fun is => plain.delimiters.2 ?_
    rw [parts, is]
    simp
  subst noQuery noMark
  have isAuthority : authority value = netloc := by
    refine authority_eq (by simpa using parts) https inside ?_
    rcases isPath with rfl | rfl
    · exact Or.inl rfl
    · exact Or.inr ⟨slash, [], by decide +kernel, rfl⟩
  have points := plain.points
  have isPort := plain.port
  have noColon := plain.noColon
  rw [isAuthority] at points isPort noColon
  obtain ⟨suffix, isSuffix, spelling⟩ := hostInfo_cases checked user
  -- a port that is written is the default one
  have default : suffix = [] ∨ suffix = text ":443" := by
    generalize hostInfo netloc = info at isSuffix isPort spelling
    obtain ⟨bare, port⟩ := info
    cases isSuffix with
    | absent => exact Or.inl rfl
    | written port =>
      right
      by_cases empty : port = []
      · subst empty
        refine absurd ?_ noColon
        have ends : ∃ front, netloc = front ++ [colon] := by
          rcases spelling with ⟨-, whole⟩ | ⟨-, whole, -⟩
          · exact ⟨_, whole⟩
          · exact ⟨opening :: (bare ++ [closing]), by rw [whole]; simp⟩
        obtain ⟨front, rfl⟩ := ends
        exact List.getLast?_concat
      · rw [isPort port (if_neg empty)]
        decide +kernel
  have ascii : ∀ c ∈ (hostInfo netloc).1, c.val < 128 := by
    intro c hc
    have := points c hc
    split at this
    · exact (endsAuthority_of_literal this).2.2.2.2
    · exact (of_hostPoint this).2.2.2.2
  rw [lower_lowerHost py ascii] at result
  rcases spelling with ⟨absent, whole⟩ | ⟨present, whole, address⟩
  · have name : HostSpelling py (hostInfo netloc).1 (hostInfo netloc).1 :=
      .name _ named fun c hc => by simpa [absent] using points c hc
    refine ⟨scheme, _, _, suffix, path, ?_, https, name, default, isPath, result⟩
    rw [parts, List.append_assoc _ _ suffix, ← whole]
    simp
  · have literal := HostSpelling.literal (hostInfo netloc).1 address fun c hc => by
      simpa [present] using points c hc
    refine ⟨scheme, _, _, suffix, path, ?_, https, literal, default, isPath, result⟩
    rw [parts]
    conv_lhs => rw [whole]
    simp

theorem lowerText_eq_https {scheme : Text} (https : lowerText scheme = text "https")
    {c : CodePoint} (fixed : lowerPoint c = c) (other : c ∉ text "https") : c ∉ scheme := by
  intro mem
  have := List.mem_map_of_mem (f := lowerPoint) mem
  rw [fixed] at this
  exact other (https ▸ this)

/-- The text of a default port, if any. -/
theorem portSuffix_default {port : Text} (h : port = [] ∨ port = text ":443") :
    ∃ given, PortSuffix port given ∧ (∀ p ∈ given, p = text "443") ∧
      (∀ c ∈ port, endsAuthority c = false ∧ c ≠ atSign ∧ c ≠ opening) := by
  rcases h with rfl | rfl
  · exact ⟨none, .absent, by rintro _ ⟨⟩, by rintro _ ⟨⟩⟩
  · have whole : text ":443" = colon :: text "443" := by decide +kernel
    have given : givenPort (text "443") = some (text "443") := by decide +kernel
    have suffix : PortSuffix (colon :: text "443") (givenPort (text "443")) := .written _
    have points : text ":443" = [58, 52, 52, 51] := by decide +kernel
    have plain : ∀ c ∈ text ":443", endsAuthority c = false ∧ c ≠ atSign ∧ c ≠ opening := by
      rw [points]
      simp [endsAuthority, slash, question, hashSign, atSign, opening]
    rw [given, ← whole] at suffix
    refine ⟨some (text "443"), suffix, fun p isP => ?_, plain⟩
    exact (Option.mem_some_iff.mp isP).symm

/-- One authority is plainly spelled. -/
theorem Unambiguous.plain {py : Python} {value host : Text} (h : Unambiguous py value host) :
    PlainSpelling value := by
  obtain ⟨scheme, spelled, bare, port, path, parts, https, spelling, isPort, isPath, -⟩ := h.parts
  obtain ⟨given, isSuffix, isDefault, portPoints⟩ := portSuffix_default isPort
  -- the host and its port, as the splitting reads them
  obtain ⟨plain, info, points, ends⟩ : (∀ c ∈ spelled, endsAuthority c = false) ∧
      hostInfo (spelled ++ port) = (bare, given) ∧
      (∀ c ∈ bare, (if opening ∈ spelled ++ port then isLiteralPoint c else isHostPoint c) = true) ∧
      (spelled.getLast? ≠ some colon ∧ spelled ≠ []) := by
    cases spelling with
    | name host nonempty hostPoints =>
      have none : ∀ {d : CodePoint}, (∀ c ∈ spelled, c ≠ d) → (∀ c ∈ port, c ≠ d) →
          d ∉ spelled ++ port := by
        intro d first second mem
        rcases List.mem_append.mp mem with inHost | inPort
        · exact first d inHost rfl
        · exact second d inPort rfl
      have brackets : opening ∉ spelled ++ port :=
        none (fun c hc => (of_hostPoint (hostPoints c hc)).2.2.1) fun c hc => (portPoints c hc).2.2
      refine ⟨fun c hc => (of_hostPoint (hostPoints c hc)).1, hostInfo_name isSuffix ?_ brackets ?_,
        fun c hc => by rw [if_neg brackets]; exact hostPoints c hc, ?_, nonempty⟩
      · exact none (fun c hc => (of_hostPoint (hostPoints c hc)).2.1) fun c hc => (portPoints c hc).2.1
      · exact fun mem => (of_hostPoint (hostPoints _ mem)).2.2.2.1 rfl
      · intro last
        exact (of_hostPoint (hostPoints _ (List.mem_of_getLast? last))).2.2.2.1 rfl
    | literal host address literalPoints =>
      have whole : opening :: bare ++ [closing] ++ port = opening :: (bare ++ closing :: port) := by simp
      refine ⟨?_, ?_, ?_, ?_, by simp⟩
      · intro c hc
        simp only [List.cons_append, List.mem_cons, List.mem_append, List.not_mem_nil, or_false] at hc
        rcases hc with rfl | hc | rfl
        · decide
        · exact (endsAuthority_of_literal (literalPoints c hc)).1
        · decide
      · rw [whole]
        refine hostInfo_literal isSuffix ?_ ?_
        · intro mem
          simp only [List.mem_cons, List.mem_append] at mem
          rcases mem with isAt | inHost | isAt | inPort
          · exact absurd isAt (by decide)
          · exact (endsAuthority_of_literal (literalPoints _ inHost)).2.1 rfl
          · exact absurd isAt (by decide)
          · exact (portPoints _ inPort).2.1 rfl
        · exact fun mem => (endsAuthority_of_literal (literalPoints _ mem)).2.2.2.1 rfl
      · intro c hc
        rw [if_pos (by simp)]
        exact literalPoints c hc
      · rw [List.getLast?_concat]
        decide
  have isAuthority : authority value = spelled ++ port := by
    have whole : value = scheme ++ text "://" ++ (spelled ++ port) ++ path := by rw [parts]; simp
    refine authority_eq whole https ?_ ?_
    · intro c hc
      rcases List.mem_append.mp hc with inHost | inPort
      · exact plain c inHost
      · exact (portPoints c inPort).1
    · rcases isPath with rfl | rfl
      · exact Or.inl rfl
      · exact Or.inr ⟨slash, [], by decide +kernel, rfl⟩
  have outside : ∀ d : CodePoint, endsAuthority d = true → d ∉ scheme → d ∉ text "://" →
      d ∉ text "/" → d ∉ value := by
    intro d delimiter notScheme notSeparator notPath mem
    rw [parts] at mem
    simp only [List.mem_append] at mem
    rcases mem with (((inScheme | inSeparator) | inHost) | inPort) | inPath
    · exact notScheme inScheme
    · exact notSeparator inSeparator
    · rw [plain d inHost] at delimiter
      cases delimiter
    · rw [(portPoints d inPort).1] at delimiter
      cases delimiter
    · rcases isPath with rfl | rfl
      · cases inPath
      · exact notPath inPath
  refine ⟨⟨?_, ?_⟩, ?_, ?_, ?_⟩
  · exact outside question (by decide) (lowerText_eq_https https (by decide) (by decide +kernel))
      (by decide +kernel) (by decide +kernel)
  · exact outside hashSign (by decide) (lowerText_eq_https https (by decide) (by decide +kernel))
      (by decide +kernel) (by decide +kernel)
  · rw [isAuthority, info]
    exact points
  · rw [isAuthority, info]
    exact isDefault
  · rw [isAuthority]
    rcases isPort with rfl | rfl
    · rw [List.append_nil]
      exact ends.1
    · have last : (text ":443").getLast? = some 51 := by decide +kernel
      rw [List.getLast?_append, last, Option.some_or]
      decide

/-! ## Targets -/

/-- A field of a gateway's target. -/
def targetField (targets : List (Text × Json)) (gateway field : String) : Option Json :=
  (targets.lookup (text gateway)).bind fun target => target.get? (text field)

/-- The host of a gateway's endpoint. -/
def targetHost (py : Python) (targets : List (Text × Json)) (gateway field : String) :
    Except Refused Text := endpointHost py ((targetField targets gateway field).getD .null)

/-- The gateways are bound to different control planes, each with two hosts. -/
structure DistinctTargets (py : Python) (targets : List (Text × Json)) : Prop where
  ids : ∃ first second a b, targetField targets "api" "control_plane_id" = some (.str first) ∧
    targetField targets "third-party" "control_plane_id" = some (.str second) ∧
    uuid first = some a ∧ uuid second = some b ∧ a ≠ b
  names : ∃ first second, targetField targets "api" "control_plane_name" = some (.str first) ∧
    targetField targets "third-party" "control_plane_name" = some (.str second) ∧ first ≠ second
  hosts : ∀ gateway ∈ gateways, ∃ controlPlane telemetry,
    targetHost py targets gateway "control_plane_endpoint" = .ok controlPlane ∧
    targetHost py targets gateway "telemetry_endpoint" = .ok telemetry ∧ controlPlane ≠ telemetry

/-- The two ids differ in more than the case of their letters. -/
def SpelledApart (py : Python) (targets : List (Text × Json)) : Prop :=
  ∀ first second, targetField targets "api" "control_plane_id" = some (.str first) →
    targetField targets "third-party" "control_plane_id" = some (.str second) →
    py.lower first ≠ py.lower second

/-- What one pass of the loop has checked. -/
structure TargetChecked (py : Python) (targets : List (Text × Json)) (gateway : String)
    (c c' : Collected) (cpId cpName : Text) : Prop where
  id : targetField targets gateway "control_plane_id" = some (.str cpId)
  name : targetField targets gateway "control_plane_name" = some (.str cpName)
  uuid : ∃ value, uuid cpId = some value ∧ uuidText value = py.lower cpId
  freshName : cpName ∉ c.names
  names : c'.names = cpName :: c.names
  hosts : ∃ controlPlane telemetry,
    targetHost py targets gateway "control_plane_endpoint" = .ok controlPlane ∧
    targetHost py targets gateway "telemetry_endpoint" = .ok telemetry ∧ controlPlane ≠ telemetry

theorem filled_eq_some {v : Json} {t : Text} (h : filled v = some t) : v = .str t := by
  unfold filled at h
  split at h
  · split at h
    · cases h
    · cases h
      rfl
  · cases h

theorem requireFor_bind {α : Type} {gateway : Text} {holds : Bool} {message : String}
    {next : Unit → Except Refused α} {a : α} :
    (requireFor gateway holds message >>= next) = .ok a ↔ holds = true ∧ next () = .ok a := by
  cases holds <;> simp [requireFor, failFor, bind, Except.bind]

theorem validateTarget_checked {py : Python} {targets : List (Text × Json)}
    {expectedNames : List (Text × Text)} {gateway : String} {c c' : Collected}
    (h : validateTarget py targets expectedNames (text gateway) c = .ok c') :
    ∃ cpId cpName, TargetChecked py targets gateway c c' cpId cpName := by
  unfold validateTarget at h
  split at h
  · rename_i target found
    have field : ∀ name : String, targetField targets gateway name = target.lookup (text name) :=
      fun name => by rw [targetField, found]; rfl
    obtain ⟨-, h⟩ := requireFor_bind.mp h
    split at h
    · rename_i cpId cpName isId isName
      obtain ⟨isUuid, h⟩ := requireFor_bind.mp h
      obtain ⟨-, h⟩ := require_bind.mp h
      obtain ⟨freshName, h⟩ := require_bind.mp h
      obtain ⟨-, -, h⟩ := bind_eq_ok.mp h
      obtain ⟨cpHost, hcp, h⟩ := bind_eq_ok.mp h
      obtain ⟨tpHost, htp, h⟩ := bind_eq_ok.mp h
      obtain ⟨differ, h⟩ := requireFor_bind.mp h
      cases h
      obtain ⟨idValue, idFound, idFilled⟩ := Option.bind_eq_some_iff.mp isId
      obtain ⟨nameValue, nameFound, nameFilled⟩ := Option.bind_eq_some_iff.mp isName
      refine ⟨cpId, cpName, ?_, ?_, ?_, by simpa using freshName, rfl, cpHost, tpHost, ?_, ?_,
        by simpa using differ⟩
      · rw [field, idFound, filled_eq_some idFilled]
      · rw [field, nameFound, filled_eq_some nameFilled]
      · cases hvalue : Lib.uuid cpId with
        | none => simp [hvalue] at isUuid
        | some value => exact ⟨value, rfl, by simpa [hvalue] using isUuid⟩
      · rw [targetHost, field]
        exact hcp
      · rw [targetHost, field]
        exact htp
    · cases h
  · cases h

/-- Accepted documents name two UUIDs exactly when their spellings differ in more than case. -/
theorem validateTargets_distinct {py : Python} {targets normalized : List (Text × Json)}
    {expectedNames : List (Text × Text)}
    (h : validateTargets py targets expectedNames = .ok normalized) :
    DistinctTargets py targets ↔ SpelledApart py targets := by
  unfold validateTargets at h
  obtain ⟨-, h⟩ := require_bind.mp h
  obtain ⟨collected, h, -⟩ := bind_eq_ok.mp h
  simp only [gateways, List.map_cons, List.map_nil, List.foldlM_cons, List.foldlM_nil] at h
  obtain ⟨c, first, h⟩ := bind_eq_ok.mp h
  obtain ⟨c', second, -⟩ := bind_eq_ok.mp h
  obtain ⟨apiId, apiName, api⟩ := validateTarget_checked first
  obtain ⟨tpId, tpName, tp⟩ := validateTarget_checked second
  obtain ⟨a, ha, atext⟩ := api.uuid
  obtain ⟨b, hb, btext⟩ := tp.uuid
  constructor
  · intro distinct x y hx hy same
    obtain ⟨x', y', a', b', hx', hy', ha', hb', differ⟩ := distinct.ids
    rw [api.id] at hx hx'
    rw [tp.id] at hy hy'
    cases hx
    cases hx'
    cases hy
    cases hy'
    rw [ha] at ha'
    rw [hb] at hb'
    cases ha'
    cases hb'
    refine differ (uuidText_injective (uuid_lt ha) (uuid_lt hb) ?_)
    rw [atext, btext, same]
  · intro apart
    refine ⟨⟨apiId, tpId, a, b, api.id, tp.id, ha, hb, ?_⟩, ⟨apiName, tpName, api.name, tp.name, ?_⟩, ?_⟩
    · rintro rfl
      exact apart apiId tpId api.id tp.id (atext.symm.trans btext)
    · have fresh := tp.freshName
      rw [api.names] at fresh
      exact fun same => fresh (same ▸ List.mem_cons_self)
    · intro gateway hgateway
      simp only [gateways, List.mem_cons, List.not_mem_nil, or_false] at hgateway
      rcases hgateway with rfl | rfl
      · exact api.hosts
      · exact tp.hosts

/-! ## Admission -/

/-- An admitted endpoint is one authority exactly when it is plainly spelled, and admitted
targets are distinct exactly when their ids differ in more than case. -/
theorem targets_unambiguous (py : Python) :
    (∀ value host, endpointHost py (.str value) = .ok host →
      (Unambiguous py value host ↔ PlainSpelling value)) ∧
    ∀ targets expectedNames normalized, validateTargets py targets expectedNames = .ok normalized →
      (DistinctTargets py targets ↔ SpelledApart py targets) :=
  ⟨fun _ _ admitted => ⟨Unambiguous.plain, (endpointHost_admitted admitted).unambiguous⟩,
    fun _ _ _ => validateTargets_distinct⟩

/-- A target with a given id, name and control-plane endpoint. -/
def target (cpId name endpoint : String) : Json :=
  .obj [(text "control_plane_id", .str (text cpId)), (text "control_plane_name", .str (text name)),
    (text "control_plane_endpoint", .str (text endpoint)),
    (text "telemetry_endpoint", .str (text "https://tp"))]

/-- Both gateways bound to one control plane, its id spelled in two cases. -/
def sameControlPlane : List (Text × Json) :=
  [(text "api", target "c0ffee00-0000-4000-8000-000000000001" "a" "https://cp?"),
    (text "third-party", target "C0FFEE00-0000-4000-8000-000000000001" "b" "https://cp:")]

def isAccepted {α : Type} : Except Refused α → Bool
  | .ok _ => true
  | .error _ => false

/-- An empty query passes, and so does one control plane bound to both gateways. -/
theorem targets_ambiguous :
    (¬ ∀ value host, endpointHost asciiPython (.str value) = .ok host →
      Unambiguous asciiPython value host) ∧
    ¬ ∀ targets expectedNames normalized,
      validateTargets asciiPython targets expectedNames = .ok normalized →
        DistinctTargets asciiPython targets := by
  constructor
  · intro all
    have admitted : endpointHost asciiPython (.str (text "https://cp?")) = .ok (text "cp") := by
      decide +kernel
    exact (all _ _ admitted).plain.delimiters.1 (by decide +kernel)
  · intro all
    have admitted : isAccepted (validateTargets asciiPython sameControlPlane []) = true := by
      decide +kernel
    cases result : validateTargets asciiPython sameControlPlane [] with
    | error e => simp [result, isAccepted] at admitted
    | ok normalized =>
      obtain ⟨first, second, a, b, hfirst, hsecond, ha, hb, differ⟩ := (all _ _ _ result).ids
      have api : (targetField sameControlPlane "api" "control_plane_id").bind str? =
          some (text "c0ffee00-0000-4000-8000-000000000001") := by decide +kernel
      have tp : (targetField sameControlPlane "third-party" "control_plane_id").bind str? =
          some (text "C0FFEE00-0000-4000-8000-000000000001") := by decide +kernel
      rw [hfirst] at api
      rw [hsecond] at tp
      rw [Option.some.inj api] at ha
      rw [Option.some.inj tp] at hb
      have same : uuid (text "c0ffee00-0000-4000-8000-000000000001") =
          uuid (text "C0FFEE00-0000-4000-8000-000000000001") := by decide +kernel
      exact differ (Option.some.inj (ha.symm.trans (same.trans hb)))

/-- The gateways as they are rendered. -/
def renderedTargets : List (Text × Json) :=
  [(text "api", target "c0ffee00-0000-4000-8000-000000000001" "a" "https://cp:443/"),
    (text "third-party", target "c0ffee00-0000-4000-8000-000000000002" "b" "HTTPS://CP")]

theorem targets_unambiguous_rendered :
    (Unambiguous asciiPython (text "HTTPS://CP:443/") (text "cp") ↔
      PlainSpelling (text "HTTPS://CP:443/")) ∧
    (DistinctTargets asciiPython renderedTargets ↔ SpelledApart asciiPython renderedTargets) := by
  have admitted : endpointHost asciiPython (.str (text "HTTPS://CP:443/")) = .ok (text "cp") := by
    decide +kernel
  have accepted : isAccepted (validateTargets asciiPython renderedTargets []) = true := by
    decide +kernel
  refine ⟨(targets_unambiguous asciiPython).1 _ _ admitted, ?_⟩
  cases result : validateTargets asciiPython renderedTargets [] with
  | error e => simp [result, isAccepted] at accepted
  | ok normalized => exact (targets_unambiguous asciiPython).2 _ _ _ result

end KonnectFapi.Guarantees

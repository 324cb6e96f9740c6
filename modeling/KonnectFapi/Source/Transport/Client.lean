import KonnectFapi.Source.Transport.Uri

/-!
# The HTTP client's view of a target

The client library is not part of the repository. Its documented reading of a
uri is a relation here: an optional scheme, `//`, a host, an optional run of
digits as port, and whatever follows as path and query. Against it stands the
guard's own reading, handler.lua:865-884.
-/

namespace KonnectFapi.Source.Transport
open Lib Lib.Lua

/-- The pieces the client reads a uri in. -/
structure UriParts where
  scheme : Option Bytes
  host : Bytes
  port : Option Bytes
  rest : Bytes

def schemeText : Option Bytes → Bytes
  | some scheme => scheme ++ ascii ":"
  | none => []

def portText : Option Bytes → Bytes
  | some digits => ascii ":" ++ digits
  | none => []

def UriParts.text (parts : UriParts) : Bytes :=
  schemeText parts.scheme ++ ascii "//" ++ (parts.host ++ (portText parts.port ++ parts.rest))

/-- Neither a bracket, nor `:`, `/` or `?`. -/
def isHostByte (b : Byte) : Bool := !(b == 91 || b == 93 || b == 58 || b == 47 || b == 63)

/-- The client reads `uri` as `parts`; every run it takes is maximal. -/
structure Splits (uri : Bytes) (parts : UriParts) : Prop where
  text : uri = parts.text
  scheme : ∀ scheme ∈ parts.scheme, scheme = ascii "http" ∨ scheme = ascii "https"
  host : (parts.host ≠ [] ∧ parts.host.all isHostByte = true ∧
      startsWith isHostByte (portText parts.port ++ parts.rest) = false) ∨
    ∃ inner, inner ≠ [] ∧ parts.host = ascii "[" ++ inner ++ ascii "]"
  port : ∀ digits ∈ parts.port, digits ≠ [] ∧ digits.all isDigit = true ∧
    startsWith isDigit parts.rest = false
  noPort : parts.port = none → ∀ digit after, parts.rest = ascii ":" ++ digit :: after →
    isDigit digit = false

/-- Where the client connects; `inherited` is the scheme of the current request. -/
def UriParts.target (inherited : Bytes) (parts : UriParts) : Bytes × Nat :=
  (lower parts.host,
    match parts.port with
    | some digits => numeral digits
    | none => if parts.scheme.getD inherited = ascii "https" then 443 else 80)

/-- The two listeners of the authorization server. -/
def asTargets : List (Bytes × Nat) := [(ascii "localhost", 8444), (ascii "keycloak", 8443)]

/-- What follows the port without a byte that ends an authority. -/
def UriParts.glued (parts : UriParts) : Bytes := parts.rest.takeWhile isAuthorityByte

/-- The guard reads an authorization-server authority as well: a scheme is written
out, and either host and port are spelled exactly so with nothing glued to them, or
what is glued to them ends in `@` and such an authority. -/
def UriParts.GuardReads (parts : UriParts) : Prop :=
  parts.scheme.isSome = true ∧
    ((parts.glued = [] ∧ lower parts.host ++ portText parts.port ∈ asAuthorities) ∨
      ∃ before authority, parts.glued = before ++ ascii "@" ++ authority ∧
        lower authority ∈ asAuthorities)

/-! ## The last `@` of an authority -/

theorem hostPort_spec (authority : Bytes) :
    hostPort authority = authority ∨
      ∃ before, authority = before ++ ascii "@" ++ hostPort authority := by
  unfold hostPort
  split
  · rename_i h
    exact Or.inl (List.reverse_eq_nil_iff.mp h).symm
  · rename_i last before h
    split
    · rename_i found
      have found : (64 : Byte) ∈ before := by simpa using found
      obtain ⟨after, earlier, split, plain⟩ := List.eq_append_cons_of_mem found
      have taken : before.takeWhile (· != 64) = after := by
        rw [split]
        refine takeWhile_run (fun b hb => ?_) (by simp [startsWith])
        simpa using fun h : b = 64 => plain (h ▸ hb)
      refine Or.inr ⟨earlier.reverse, ?_⟩
      have whole : authority = (last :: before).reverse := by rw [← h, List.reverse_reverse]
      rw [taken, whole, split]
      simp [ascii]
    · exact Or.inl rfl

/-- An authority without `@` is what follows the last one. -/
theorem hostPort_append (before authority : Bytes) (plain : (64 : Byte) ∉ authority)
    (nonempty : authority ≠ []) : hostPort (before ++ ascii "@" ++ authority) = authority := by
  have reversed : (before ++ ascii "@" ++ authority).reverse =
      authority.reverse ++ 64 :: before.reverse := by simp [ascii]
  unfold hostPort
  rw [reversed]
  cases hrev : authority.reverse with
  | nil => exact absurd (List.reverse_eq_nil_iff.mp hrev) nonempty
  | cons last init =>
    have plain' : (64 : Byte) ∉ init := fun h =>
      plain (List.mem_reverse.mp (hrev ▸ List.mem_cons_of_mem last h))
    have taken : (init ++ 64 :: before.reverse).takeWhile (· != 64) = init :=
      takeWhile_run (fun b hb => by simpa using fun h : b = 64 => plain' (h ▸ hb))
        (by simp [startsWith])
    simp only [List.cons_append]
    rw [if_pos (by simp), taken, ← hrev, List.reverse_reverse]

theorem hostPort_of_plain (authority : Bytes) (plain : (64 : Byte) ∉ authority) :
    hostPort authority = authority := by
  rcases hostPort_spec authority with same | ⟨before, split⟩
  · exact same
  · rw [split] at plain
    simp [ascii] at plain

/-! ## Letter case -/

theorem isAuthorityByte_lower (b : Byte) : isAuthorityByte (lowerByte b) = isAuthorityByte b := by
  revert b
  exact byte_forall (by decide +kernel)

theorem isDigit_lower (b : Byte) : isDigit (lowerByte b) = isDigit b := by
  revert b
  exact byte_forall (by decide +kernel)

theorem lower_append (a b : Bytes) : lower (a ++ b) = lower a ++ lower b := List.map_append

/-- Folding neither makes nor removes an `@`. -/
theorem at_mem_lower {bs : Bytes} : (64 : Byte) ∈ lower bs ↔ (64 : Byte) ∈ bs := by
  have fixed : ∀ b : Byte, lowerByte b = 64 ↔ b = 64 := byte_forall (by decide +kernel)
  simp [lower, fixed]

/-- Digits are not letters. -/
theorem lower_digits {digits : Bytes} (h : digits.all isDigit = true) : lower digits = digits := by
  have fixed : ∀ b : Byte, isDigit b = true → lowerByte b = b := byte_forall (by decide +kernel)
  unfold lower
  conv_rhs => rw [← List.map_id digits]
  exact List.map_congr_left fun b hb => fixed b (List.all_eq_true.mp h b hb)

/-! ## Where the two readings meet -/

/-- What the guard reads of a uri with a written scheme. -/
theorem matchOrigin_written (scheme after : Bytes)
    (h : scheme = ascii "http" ∨ scheme = ascii "https") :
    matchOrigin (scheme ++ ascii "://" ++ after) =
      if after.takeWhile isAuthorityByte = [] then none
      else some (scheme, after.takeWhile isAuthorityByte) := by
  rcases h with rfl | rfl <;> rfl

theorem matchOrigin_schemeless (after : Bytes) : matchOrigin (ascii "//" ++ after) = none := rfl

/-- A uri the client takes to the server names one of its hosts and a port. -/
theorem target_named {inherited : Bytes} {parts : UriParts}
    (target : parts.target inherited ∈ asTargets) :
    (lower parts.host = ascii "localhost" ∨ lower parts.host = ascii "keycloak") ∧
      ∃ digits, parts.port = some digits := by
  unfold UriParts.target at target
  simp only [asTargets, List.mem_cons, Prod.mk.injEq, List.not_mem_nil, or_false] at target
  refine ⟨target.imp And.left And.left, ?_⟩
  cases hport : parts.port with
  | some digits => exact ⟨digits, rfl⟩
  | none =>
    simp only [hport] at target
    rcases target with ⟨-, h⟩ | ⟨-, h⟩ <;> split at h <;> cases h

/-- The bytes of such a host neither end an authority nor hold an `@`. -/
theorem target_host_plain {inherited : Bytes} {parts : UriParts}
    (target : parts.target inherited ∈ asTargets) :
    (∀ b ∈ parts.host, isAuthorityByte b = true) ∧ (64 : Byte) ∉ parts.host := by
  have named := (target_named target).1
  have folded : (∀ b ∈ lower parts.host, isAuthorityByte b = true) ∧ (64 : Byte) ∉ lower parts.host := by
    rcases named with h | h <;> rw [h] <;> decide +kernel
  refine ⟨fun b hb => ?_, fun h => folded.2 (at_mem_lower.mpr h)⟩
  rw [← isAuthorityByte_lower]
  exact folded.1 _ (List.mem_map_of_mem hb)

theorem portText_plain {digits : Bytes} (h : digits.all isDigit = true) :
    (∀ b ∈ portText (some digits), isAuthorityByte b = true) ∧
      (64 : Byte) ∉ portText (some digits) := by
  have fits : ∀ b : Byte, isDigit b = true → isAuthorityByte b = true ∧ b ≠ 64 :=
    byte_forall (by decide +kernel)
  have digit := List.all_eq_true.mp h
  refine ⟨fun b hb => ?_, fun hb => ?_⟩
  · rcases List.mem_append.mp hb with colon | found
    · rw [List.mem_singleton.mp colon]
      decide
    · exact (fits b (digit b found)).1
  · rcases List.mem_append.mp hb with colon | found
    · revert colon
      decide
    · exact (fits 64 (digit 64 found)).2 rfl

/-- What follows a host and the colon in the guard's authorities is digits. -/
theorem digits_of_authority {host after : Bytes}
    (named : host = ascii "localhost" ∨ host = ascii "keycloak")
    (h : host ++ ascii ":" ++ after ∈ asAuthorities) : after.all isDigit = true := by
  rcases named with rfl | rfl <;> simp [asAuthorities, ascii] at h <;> rw [h] <;> decide

/-- Nothing is glued to a maximal run of digits that folds to one of the guard's
authorities. -/
theorem glued_of_folded {parts : UriParts} {digits : Bytes}
    (named : lower parts.host = ascii "localhost" ∨ lower parts.host = ascii "keycloak")
    (stop : startsWith isDigit parts.rest = false)
    (h : lower (parts.host ++ portText (some digits) ++ parts.glued) ∈ asAuthorities) :
    parts.glued = [] := by
  have whole : lower (parts.host ++ portText (some digits) ++ parts.glued) =
      lower parts.host ++ ascii ":" ++ lower (digits ++ parts.glued) := by
    simp [lower, portText, ascii, lowerByte, isUpper]
  have digit := List.all_eq_true.mp (digits_of_authority named (whole ▸ h))
  unfold UriParts.glued at digit ⊢
  cases hrest : parts.rest with
  | nil => rfl
  | cons b after =>
    rw [hrest] at stop digit
    have notDigit : isDigit b = false := by simpa [startsWith] using stop
    rw [List.takeWhile_cons] at digit ⊢
    split
    · rename_i hb
      rw [if_pos hb] at digit
      have := digit (lowerByte b) (by simp [lower])
      rw [isDigit_lower, notDigit] at this
      cases this
    · rfl

/-- An `@` of the whole lies behind a part that holds none. -/
theorem behind_of_plain {front back before after : Bytes} (plain : (64 : Byte) ∉ front)
    (h : front ++ back = before ++ ascii "@" ++ after) :
    ∃ glue, back = glue ++ ascii "@" ++ after := by
  rw [List.append_assoc] at h
  rcases List.append_eq_append_iff.mp h with ⟨glue, -, hback⟩ | ⟨overlap, hfront, hafter⟩
  · exact ⟨glue, by rw [hback, List.append_assoc]⟩
  · cases overlap with
    | nil => exact ⟨[], hafter.symm⟩
    | cons b tail =>
      have : b = 64 := (List.cons.inj hafter).1.symm
      subst this
      exact absurd (hfront ▸ List.mem_append_right before List.mem_cons_self) plain

/-- The guard protects a uri the client takes to the server exactly when it reads an
authorization-server authority in it. -/
theorem protectedOrigin_iff {uri inherited : Bytes} {parts : UriParts} (split : Splits uri parts)
    (target : parts.target inherited ∈ asTargets) :
    protectedOrigin (.str uri) = true ↔ parts.GuardReads := by
  obtain ⟨named, digits, hport⟩ := target_named target
  obtain ⟨-, allDigits, stop⟩ := split.port digits hport
  obtain ⟨hostFits, hostPlain⟩ := target_host_plain target
  obtain ⟨portFits, portPlain⟩ := portText_plain allDigits
  have plain : (64 : Byte) ∉ parts.host ++ portText (some digits) := by
    simp only [List.mem_append, not_or]
    exact ⟨hostPlain, portPlain⟩
  have folded : lower (portText (some digits)) = portText (some digits) := by
    rw [portText, lower_append, lower_digits allDigits]
    rfl
  have authority : (parts.host ++ (portText parts.port ++ parts.rest)).takeWhile isAuthorityByte =
      parts.host ++ portText (some digits) ++ parts.glued := by
    rw [hport, List.takeWhile_append_of_pos hostFits, List.takeWhile_append_of_pos portFits,
      List.append_assoc]
    rfl
  have nonempty : parts.host ++ portText (some digits) ++ parts.glued ≠ [] := by
    simp [portText, ascii]
  unfold UriParts.GuardReads
  cases hscheme : parts.scheme with
  | none =>
    have : uri = ascii "//" ++ (parts.host ++ (portText parts.port ++ parts.rest)) := by
      rw [split.text, UriParts.text, hscheme]
      rfl
    rw [this]
    simp [protectedOrigin, urlOrigin, matchOrigin_schemeless]
  | some scheme =>
    have spelled : uri = scheme ++ ascii "://" ++
        (parts.host ++ (portText parts.port ++ parts.rest)) := by
      rw [split.text, UriParts.text, hscheme]
      simp [schemeText, ascii]
    have read : protectedOrigin (.str uri) = true ↔
        lower (hostPort (parts.host ++ portText (some digits) ++ parts.glued)) ∈ asAuthorities := by
      unfold protectedOrigin urlOrigin
      dsimp only
      rw [spelled, matchOrigin_written scheme _ (split.scheme scheme hscheme), authority,
        if_neg nonempty]
      simp
    rw [read, hport]
    simp only [Option.isSome_some, true_and]
    constructor
    · intro h
      rcases hostPort_spec (parts.host ++ portText (some digits) ++ parts.glued) with
        same | ⟨before, found⟩
      · rw [same] at h
        have nothing := glued_of_folded named stop h
        refine Or.inl ⟨nothing, ?_⟩
        rwa [nothing, List.append_nil, lower_append, folded] at h
      · obtain ⟨glue, hglue⟩ := behind_of_plain plain found
        exact Or.inr ⟨glue, _, hglue, h⟩
    · rintro (⟨nothing, spelling⟩ | ⟨before, asAuthority, hglued, known⟩)
      · rw [nothing, List.append_nil, hostPort_of_plain _ plain, lower_append, folded]
        exact spelling
      · have spelled : (64 : Byte) ∉ lower asAuthority ∧ lower asAuthority ≠ [] := by
          have known := known
          simp only [asAuthorities, List.mem_cons, List.not_mem_nil, or_false] at known
          rcases known with h | h <;> rw [h] <;> decide
        have last : hostPort (parts.host ++ portText (some digits) ++ parts.glued) = asAuthority := by
          rw [hglued, ← List.append_assoc, ← List.append_assoc]
          refine hostPort_append _ _ (fun h => spelled.1 (at_mem_lower.mpr h)) ?_
          rintro rfl
          exact spelled.2 rfl
        rw [last]
        exact known

end KonnectFapi.Source.Transport

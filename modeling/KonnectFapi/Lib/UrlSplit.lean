import KonnectFapi.Lib.Json
import Mathlib.Data.List.DropRight

/-!
# Splitting a URL

`urllib.parse.urlsplit` and what its result says of host, port and user. What
depends on Unicode tables or on the grammar of addresses is a parameter.
-/

namespace KonnectFapi.Lib

/-- The strings of the interpreter, as far as tables decide them. -/
structure Python where
  /-- `str.lower()` -/
  lower : Text → Text
  lower_ascii : ∀ t : Text, (∀ c ∈ t, c.val < 128) → lower t = lowerText t
  /-- NFKC makes a delimiter of something in the network location. -/
  hidesDelimiter : Text → Bool
  /-- An IPv6 or a future address. -/
  isAddress : Text → Bool

/-- The interpreter as far as ASCII names go. -/
def asciiPython : Python where
  lower := lowerText
  lower_ascii _ _ := rfl
  hidesDelimiter _ := false
  isAddress _ := false

abbrev colon : CodePoint := 58
abbrev slash : CodePoint := 47
abbrev question : CodePoint := 63
abbrev hashSign : CodePoint := 35
abbrev atSign : CodePoint := 64
abbrev opening : CodePoint := 91
abbrev closing : CodePoint := 93
abbrev percent : CodePoint := 37

def isLetterPoint (c : CodePoint) : Bool :=
  (65 ≤ c.val && c.val ≤ 90) || (97 ≤ c.val && c.val ≤ 122)

/-- `scheme_chars` -/
def isSchemePoint (c : CodePoint) : Bool :=
  isLetterPoint c || Json.isDigitPoint c || c.val == 43 || c.val == 45 || c.val == 46

/-- What ends a network location. -/
def endsAuthority (c : CodePoint) : Bool := c == slash || c == question || c == hashSign

structure SplitResult where
  scheme : Text
  netloc : Text
  path : Text
  query : Text
  fragment : Text

/-- The text after the last `sep`, or all of it. -/
def afterLast (sep : CodePoint) (t : Text) : Text := t.rtakeWhile (· ≠ sep)

def splitScheme (url : Text) : Text × Text :=
  match partition colon url with
  | some (scheme, rest) =>
    if scheme.head?.any isLetterPoint && scheme.all isSchemePoint then (lowerText scheme, rest)
    else ([], url)
  | none => ([], url)

/-- `_splitnetloc`, where two slashes stand. -/
def splitNetloc (url : Text) : Text × Text :=
  match url with
  | 47 :: 47 :: rest => (rest.takeWhile (!endsAuthority ·), rest.dropWhile (!endsAuthority ·))
  | _ => ([], url)

/-- `_check_bracketed_netloc` -/
def checkBracketedNetloc (py : Python) (netloc : Text) : Bool :=
  let hostAndPort := afterLast atSign netloc
  match partition opening hostAndPort with
  | some (before, bracketed) =>
    let (hostname, port) := (partition closing bracketed).getD (bracketed, [])
    before.isEmpty && port.head?.all (· == colon) && py.isAddress hostname
  | none => py.isAddress (((partition colon hostAndPort).map Prod.fst).getD hostAndPort)

/-- What `urlsplit` does not refuse with a ValueError. -/
def checkNetloc (py : Python) (netloc : Text) : Bool :=
  netloc.contains opening == netloc.contains closing &&
    (!netloc.contains opening || checkBracketedNetloc py netloc) &&
    (netloc.all (·.val < 128) || !py.hidesDelimiter netloc)

/-- Leading blanks and control characters, and tabs and line ends anywhere, are dropped. -/
def withoutUnsafe (url : Text) : Text :=
  (url.dropWhile (·.val ≤ 32)).filter fun c => c.val != 9 && c.val != 10 && c.val != 13

def urlsplit (py : Python) (url : Text) : Option SplitResult :=
  let (scheme, rest) := splitScheme (withoutUnsafe url)
  let (netloc, rest) := splitNetloc rest
  if checkNetloc py netloc then
    let (rest, fragment) := (partition hashSign rest).getD (rest, [])
    let (path, query) := (partition question rest).getD (rest, [])
    some { scheme, netloc, path, query, fragment }
  else none

/-! ## The network location -/

/-- `_userinfo`: user and password, where an `@` stands. -/
def userInfo (netloc : Text) : Option Text × Option Text :=
  if netloc.contains atSign then
    match partition colon (netloc.rdropWhile (· ≠ atSign)).dropLast with
    | some (username, password) => (some username, some password)
    | none => (some (netloc.rdropWhile (· ≠ atSign)).dropLast, none)
  else (none, none)

def givenPort (port : Text) : Option Text := if port = [] then none else some port

/-- `_hostinfo`: the host, and the port where it is not empty. -/
def hostInfo (netloc : Text) : Text × Option Text :=
  let hostinfo := afterLast atSign netloc
  match partition opening hostinfo with
  | some (_, bracketed) =>
    let (hostname, after) := (partition closing bracketed).getD (bracketed, [])
    (hostname, givenPort (((partition colon after).map Prod.snd).getD []))
  | none =>
    let (hostname, port) := (partition colon hostinfo).getD (hostinfo, [])
    (hostname, givenPort port)

/-- A zone behind `%` keeps its case. -/
def lowerHost (py : Python) (hostname : Text) : Text :=
  match partition percent hostname with
  | some (address, zone) => py.lower address ++ percent :: zone
  | none => py.lower hostname

def SplitResult.hostname (py : Python) (r : SplitResult) : Option Text :=
  let (hostname, _) := hostInfo r.netloc
  if hostname = [] then none else some (lowerHost py hostname)

/-- `port`: nothing where it is no number up to 65535. Numerals of more than 4300
digits are not read. -/
def SplitResult.port (r : SplitResult) : Option (Option Nat) :=
  match (hostInfo r.netloc).2 with
  | none => some none
  | some port =>
    if port.all Json.isDigitPoint && port.length ≤ 4300 && Json.digitsValue port ≤ 65535 then
      some (some (Json.digitsValue port))
    else none

theorem lowerPoint_ascii {c : CodePoint} (h : c.val < 128) : (lowerPoint c).val < 128 := by
  rw [lowerPoint_val]
  split <;> omega

/-- Lowering an ASCII host twice is lowering it. -/
theorem lower_lowerHost (py : Python) {hostname : Text} (ascii : ∀ c ∈ hostname, c.val < 128) :
    py.lower (lowerHost py hostname) = lowerText hostname := by
  have lowered : ∀ t : Text, (∀ c ∈ t, c.val < 128) → ∀ c ∈ lowerText t, c.val < 128 := by
    intro t ht c hc
    obtain ⟨d, hd, rfl⟩ := List.mem_map.mp hc
    exact lowerPoint_ascii (ht d hd)
  unfold lowerHost
  split
  · rename_i address zone found
    have whole := eq_of_partition found
    subst whole
    simp only [List.mem_append, List.mem_cons] at ascii
    have first : ∀ c ∈ address, c.val < 128 := fun c hc => ascii c (Or.inl hc)
    rw [py.lower_ascii address first, py.lower_ascii]
    · simp [lowerText_append]
    · intro c hc
      rcases List.mem_append.mp hc with inAddress | inZone
      · exact lowered address first c inAddress
      · exact ascii c (Or.inr (List.mem_cons.mp inZone))
  · rw [py.lower_ascii hostname ascii, py.lower_ascii _ (lowered hostname ascii), lowerText_lowerText]

/-! ## What a split text looks like -/

theorem afterLast_of_not_mem {sep : CodePoint} {t : Text} (h : sep ∉ t) : afterLast sep t = t :=
  List.rtakeWhile_eq_self_iff.mpr fun c hc => by simpa using ne_of_mem_of_not_mem hc h

/-- Printable text is split as it is. -/
theorem withoutUnsafe_eq_self {t : Text} (first : ∀ c ∈ t.head?, 32 < c.val)
    (clean : ∀ c ∈ t, 32 ≤ c.val) : withoutUnsafe t = t := by
  have kept : t.dropWhile (·.val ≤ 32) = t := by
    cases t with
    | nil => rfl
    | cons c rest => exact List.dropWhile_cons_of_neg (by simpa using first c rfl)
  rw [withoutUnsafe, kept, List.filter_eq_self]
  intro c hc
  have := clean c hc
  simp only [Bool.and_eq_true, bne_iff_ne, ne_eq]
  omega

theorem splitScheme_eq {url scheme rest : Text} (h : splitScheme url = (scheme, rest))
    (nonempty : scheme ≠ []) :
    ∃ spelled, url = spelled ++ colon :: rest ∧ lowerText spelled = scheme := by
  unfold splitScheme at h
  split at h
  · rename_i spelled after found
    split at h
    · cases h
      exact ⟨spelled, eq_of_partition found, rfl⟩
    · cases h
      exact absurd rfl nonempty
  · cases h
    exact absurd rfl nonempty

/-- The rest of a URL behind its network location. -/
def Trailing (tail : Text) : Prop := tail = [] ∨ ∃ c rest, tail = c :: rest ∧ endsAuthority c = true

theorem splitNetloc_eq {url netloc tail : Text} (h : splitNetloc url = (netloc, tail))
    (nonempty : netloc ≠ []) :
    url = slash :: slash :: (netloc ++ tail) ∧ (∀ c ∈ netloc, endsAuthority c = false) ∧
      Trailing tail := by
  unfold splitNetloc at h
  split at h
  · rename_i rest
    obtain ⟨rfl, rfl⟩ := Prod.mk.inj h
    refine ⟨by rw [List.takeWhile_append_dropWhile], fun c hc => ?_, ?_⟩
    · simpa using List.mem_takeWhile_imp hc
    · cases tail : rest.dropWhile (!endsAuthority ·) with
      | nil => exact Or.inl rfl
      | cons c more =>
        refine Or.inr ⟨c, more, rfl, ?_⟩
        have head := List.head?_dropWhile_not (!endsAuthority ·) rest
        rw [tail] at head
        simpa using head
  · exact absurd (Prod.mk.inj h).1.symm nonempty

/-- A part that may stand behind its delimiter, or be missing with it. -/
theorem partition_getD (sep : CodePoint) (t : Text) :
    t = ((partition sep t).getD (t, [])).1 ++ [] ∧ ((partition sep t).getD (t, [])).2 = [] ∨
      t = ((partition sep t).getD (t, [])).1 ++ sep :: ((partition sep t).getD (t, [])).2 := by
  rcases partition_cases sep t with ⟨-, none⟩ | ⟨before, after, split, -, some⟩
  · left
    simp [none]
  · right
    rw [some]
    exact split

/-- A text and its parts, the network location not being empty. -/
structure Split (py : Python) (t : Text) (r : SplitResult) : Prop where
  parts : ∃ scheme tail, t = scheme ++ text "://" ++ r.netloc ++ tail ∧
    lowerText scheme = r.scheme ∧ Trailing tail ∧
    ∃ queried marked, tail = r.path ++ queried ++ marked ∧
      (queried = [] ∧ r.query = [] ∨ queried = question :: r.query) ∧
      (marked = [] ∧ r.fragment = [] ∨ marked = hashSign :: r.fragment)
  netloc : ∀ c ∈ r.netloc, endsAuthority c = false
  checked : checkNetloc py r.netloc = true

theorem urlsplit_split {py : Python} {t : Text} {r : SplitResult}
    (clean : withoutUnsafe t = t) (h : urlsplit py t = some r) (scheme : r.scheme ≠ [])
    (netloc : r.netloc ≠ []) : Split py t r := by
  unfold urlsplit at h
  rw [clean] at h
  obtain ⟨s, rest, hscheme⟩ : ∃ s rest, splitScheme t = (s, rest) := ⟨_, _, rfl⟩
  obtain ⟨n, tail, hnetloc⟩ : ∃ n tail, splitNetloc rest = (n, tail) := ⟨_, _, rfl⟩
  rw [hscheme] at h
  dsimp only at h
  rw [hnetloc] at h
  dsimp only at h
  split at h
  · rename_i checked
    cases h
    obtain ⟨spelled, rfl, lowered⟩ := splitScheme_eq hscheme scheme
    obtain ⟨rfl, plain, delimited⟩ := splitNetloc_eq hnetloc netloc
    refine ⟨⟨spelled, tail, ?_, lowered, delimited, ?_⟩, plain, checked⟩
    · have sep : text "://" = [colon, slash, slash] := by decide +kernel
      simp [sep]
    · rcases partition_getD hashSign tail with ⟨front, empty⟩ | front
      · rcases partition_getD question ((partition hashSign tail).getD (tail, [])).1 with
          ⟨first, none⟩ | first
        · exact ⟨[], [], by rw [← first, ← front], Or.inl ⟨rfl, none⟩, Or.inl ⟨rfl, empty⟩⟩
        · exact ⟨_, [], by rw [← first, ← front], Or.inr rfl, Or.inl ⟨rfl, empty⟩⟩
      · rcases partition_getD question ((partition hashSign tail).getD (tail, [])).1 with
          ⟨first, none⟩ | first
        · exact ⟨[], _, by rw [← first, ← front], Or.inl ⟨rfl, none⟩, Or.inr rfl⟩
        · exact ⟨_, _, by rw [← first, ← front], Or.inr rfl, Or.inr rfl⟩
  · cases h

/-! ## Host and port -/

theorem partition_cons (sep : CodePoint) (after : Text) :
    partition sep (sep :: after) = some ([], after) := by
  have none : sep ∉ ([] : Text) := List.not_mem_nil
  exact partition_append none

/-- What may stand behind a host: a colon and the text of a port. -/
inductive PortSuffix : Text → Option Text → Prop where
  | absent : PortSuffix [] none
  | written (port : Text) : PortSuffix (colon :: port) (givenPort port)

theorem hostInfo_name {host suffix : Text} {port : Option Text} (h : PortSuffix suffix port)
    (user : atSign ∉ host ++ suffix) (brackets : opening ∉ host ++ suffix) (plain : colon ∉ host) :
    hostInfo (host ++ suffix) = (host, port) := by
  unfold hostInfo
  simp only [afterLast_of_not_mem user, partition_of_not_mem brackets]
  cases h with
  | absent =>
    rw [List.append_nil, partition_of_not_mem plain]
    rfl
  | written port =>
    rw [partition_append plain]
    rfl

theorem hostInfo_literal {host suffix : Text} {port : Option Text} (h : PortSuffix suffix port)
    (user : atSign ∉ opening :: (host ++ closing :: suffix)) (plain : closing ∉ host) :
    hostInfo (opening :: (host ++ closing :: suffix)) = (host, port) := by
  unfold hostInfo
  simp only [afterLast_of_not_mem user, partition_cons, partition_append plain, Option.getD_some]
  cases h with
  | absent => rfl
  | written port => rw [partition_cons]; rfl

/-- A checked network location without a user: a host or an address in brackets,
then a port. -/
theorem hostInfo_cases {py : Python} {netloc : Text} (checked : checkNetloc py netloc = true)
    (user : atSign ∉ netloc) :
    ∃ suffix, PortSuffix suffix (hostInfo netloc).2 ∧
      ((opening ∉ netloc ∧ netloc = (hostInfo netloc).1 ++ suffix) ∨
        (opening ∈ netloc ∧ netloc = opening :: ((hostInfo netloc).1 ++ closing :: suffix) ∧
          py.isAddress (hostInfo netloc).1 = true)) := by
  simp only [checkNetloc, Bool.and_eq_true, beq_iff_eq, Bool.or_eq_true, Bool.not_eq_true'] at checked
  obtain ⟨⟨paired, bracketed⟩, -⟩ := checked
  rcases partition_cases opening netloc with ⟨absent, -⟩ | ⟨before, inside, split, -, found⟩
  · rcases partition_cases colon netloc with ⟨plain, -⟩ | ⟨host, port, whole, plain, -⟩
    · have info : hostInfo (netloc ++ []) = (netloc, none) :=
        hostInfo_name .absent (by simpa using user) (by simpa using absent) plain
      rw [List.append_nil] at info
      exact ⟨[], by rw [info]; exact .absent, Or.inl ⟨absent, by rw [info, List.append_nil]⟩⟩
    · have info := hostInfo_name (.written port) (whole ▸ user) (whole ▸ absent) plain
      rw [← whole] at info
      exact ⟨colon :: port, by rw [info]; exact .written port, Or.inl ⟨absent, by rw [info, whole]⟩⟩
  · have mem : opening ∈ netloc := by simp [split]
    have checked : checkBracketedNetloc py netloc = true := by
      rcases bracketed with notIn | ok
      · simp [mem] at notIn
      · exact ok
    simp only [checkBracketedNetloc, afterLast_of_not_mem user, found, Bool.and_eq_true,
      List.isEmpty_iff] at checked
    obtain ⟨⟨rfl, after⟩, address⟩ := checked
    have closed : closing ∈ inside := by
      have : netloc.contains closing = true := by rw [← paired]; simpa using mem
      rw [split] at this
      have apart : closing ≠ opening := by decide
      simpa [apart] using this
    rcases partition_cases closing inside with ⟨absent, -⟩ | ⟨host, suffix, parts, plain, second⟩
    · exact absurd closed absent
    rw [second, Option.getD_some] at after address
    obtain ⟨port, isSuffix⟩ : ∃ port, PortSuffix suffix port := by
      cases suffix with
      | nil => exact ⟨_, .absent⟩
      | cons c port =>
        have : c = colon := by simpa using after
        subst this
        exact ⟨_, .written port⟩
    have whole : netloc = opening :: (host ++ closing :: suffix) := by rw [split, parts]; rfl
    rw [whole] at user mem ⊢
    rw [hostInfo_literal isSuffix user plain]
    exact ⟨suffix, isSuffix, Or.inr ⟨mem, rfl, address⟩⟩

end KonnectFapi.Lib

import KonnectFapi.Lib.Text
import Mathlib.Data.List.Perm.Basic

/-!
# Configuration files of nginx

The rules by which nginx reads its configuration: where a token begins and ends,
which braces are blocks, and what of a Lua block is code. A file becomes a list of
directives and blocks, and the lines of other files stand where they are included.
-/

namespace KonnectFapi.Lib.Nginx

abbrev newline : CodePoint := 10
abbrev doubleQuote : CodePoint := 34
abbrev dollar : CodePoint := 36
abbrev singleQuote : CodePoint := 39
abbrev closingParen : CodePoint := 41
abbrev dash : CodePoint := 45
abbrev semicolon : CodePoint := 59
abbrev equalsSign : CodePoint := 61
abbrev openingBracket : CodePoint := 91
abbrev backslash : CodePoint := 92
abbrev closingBracket : CodePoint := 93
abbrev openingBrace : CodePoint := 123
abbrev closingBrace : CodePoint := 125
abbrev hash : CodePoint := 35

def isBlank (c : CodePoint) : Bool := c == 32 || c == 9 || c == 13 || c == newline

def isQuote (c : CodePoint) : Bool := c == doubleQuote || c == singleQuote

/-! ## Directives -/

/-- What stands in a file or in a block; the arguments begin with the name. -/
inductive Item where
  | simple (args : List Text)
  | block (args : List Text) (body : List Item)
  | lua (args : List Text)

/-- A file as far as it is read: the arguments since the last directive, what the
innermost block holds, and for each block around, innermost first, what stood before
and the arguments it opened the next one with. -/
structure Open where
  args : List Text
  items : List Item
  outer : List (List Item × List Text)

namespace Open

def empty : Open := ⟨[], [], []⟩

def word (o : Open) (value : Text) : Open := { o with args := o.args ++ [value] }

def statement (o : Open) : Option Open :=
  if o.args = [] then none else some { o with args := [], items := o.items ++ [.simple o.args] }

def luaBlock (o : Open) : Open := { o with args := [], items := o.items ++ [.lua o.args] }

def enter (o : Open) : Open := ⟨[], [], (o.items, o.args) :: o.outer⟩

def leave (o : Open) : Option Open :=
  match o.args, o.outer with
  | [], (before, header) :: outer => some ⟨[], before ++ [.block header o.items], outer⟩
  | _, _ => none

end Open

/-! ## Characters -/

inductive LuaMode where
  | code
  | comment
  | quoted (mark : CodePoint) (escaped : Bool)
  | long (level : Nat)
  deriving DecidableEq

inductive Mode where
  | gap
  | comment
  /-- A word, whether its last character was a dollar sign, and whether it was a backslash. -/
  | word (value : Text) (dollared escaped : Bool)
  | quoted (mark : CodePoint) (value : Text) (escaped : Bool)
  /-- After a closing quote. -/
  | closed
  | lua (depth : Nat) (mode : LuaMode)
  deriving DecidableEq

structure Reader where
  mode : Mode
  blocks : Open

def Reader.start : Reader := ⟨.gap, .empty⟩

/-- What a backslash and the character after it stand for. -/
def escape (c : CodePoint) : Text :=
  if isQuote c || c == backslash then [c]
  else if c == 116 then [9]
  else if c == 114 then [13]
  else if c == 110 then [newline]
  else [backslash, c]

/-- After an opening bracket, the level of the long bracket it opens in Lua. -/
def longOpening : Text → Option Nat
  | [] => none
  | c :: rest =>
    if c = openingBracket then some 0
    else if c = equalsSign then (longOpening rest).map (· + 1)
    else none

/-- After a closing bracket, that it closes a long bracket of the level. -/
def longClosing : Nat → Text → Bool
  | _, [] => false
  | 0, c :: _ => c == closingBracket
  | level + 1, c :: rest => c == equalsSign && longClosing level rest

/-- Behind the first dash of a comment, the level of the long bracket that holds it. -/
def longComment : Text → Option Nat
  | c :: rest => if c = openingBracket then longOpening rest else none
  | [] => none

def luaCode (c : CodePoint) (rest : Text) : LuaMode :=
  if isQuote c then .quoted c false
  else if c = dash ∧ rest.head? = some dash then
    match longComment rest.tail with
    | some level => .long level
    | none => .comment
  else if c = openingBracket then
    match longOpening rest with
    | some level => .long level
    | none => .code
  else .code

/-- How a Lua block goes on where the character is no brace of its code. -/
def luaStep (mode : LuaMode) (c : CodePoint) (rest : Text) : LuaMode :=
  match mode with
  | .code => luaCode c rest
  | .comment => if c = newline then .code else .comment
  | .quoted mark true => .quoted mark false
  | .quoted mark false =>
    if c = backslash then .quoted mark true else if c = mark then .code else .quoted mark false
  | .long level => if c = closingBracket && longClosing level rest then .code else .long level

/-- A block opens; the directives of Lua code are known by their name. -/
def openBlock (isLua : Text → Bool) (o : Open) : Option Reader :=
  match o.args with
  | [] => none
  | name :: _ => some (if isLua name then ⟨.lua 1 .code, o⟩ else ⟨.gap, o.enter⟩)

def step (isLua : Text → Bool) (r : Reader) (c : CodePoint) (rest : Text) : Option Reader :=
  match r.mode with
  | .gap =>
    if isBlank c then some r
    else if c = semicolon then r.blocks.statement.map (⟨.gap, ·⟩)
    else if c = openingBrace then openBlock isLua r.blocks
    else if c = closingBrace then r.blocks.leave.map (⟨.gap, ·⟩)
    else if c = hash then some { r with mode := .comment }
    else if c = backslash then some { r with mode := .word [] false true }
    else if isQuote c then some { r with mode := .quoted c [] false }
    else some { r with mode := .word [c] (c == dollar) false }
  | .comment => some { r with mode := if c = newline then .gap else .comment }
  | .word value dollared escaped =>
    if escaped then some { r with mode := .word (value ++ escape c) false false }
    else if c = openingBrace ∧ dollared then some { r with mode := .word (value ++ [c]) true false }
    else if c = backslash then some { r with mode := .word value false true }
    else if isBlank c then some ⟨.gap, r.blocks.word value⟩
    else if c = semicolon then (r.blocks.word value).statement.map (⟨.gap, ·⟩)
    else if c = openingBrace then openBlock isLua (r.blocks.word value)
    else some { r with mode := .word (value ++ [c]) (c == dollar) false }
  | .quoted mark value escaped =>
    if escaped then some { r with mode := .quoted mark (value ++ escape c) false }
    else if c = backslash then some { r with mode := .quoted mark value true }
    else if c = mark then some ⟨.closed, r.blocks.word value⟩
    else some { r with mode := .quoted mark (value ++ [c]) false }
  | .closed =>
    if isBlank c then some { r with mode := .gap }
    else if c = semicolon then r.blocks.statement.map (⟨.gap, ·⟩)
    else if c = openingBrace then openBlock isLua r.blocks
    else if c = closingParen then some { r with mode := .word [c] false false }
    else none
  | .lua depth mode =>
    if mode = .code ∧ c = openingBrace then some { r with mode := .lua (depth + 1) .code }
    else if mode = .code ∧ c = closingBrace then
      if depth = 1 then some ⟨.gap, r.blocks.luaBlock⟩ else some { r with mode := .lua (depth - 1) .code }
    else some { r with mode := .lua depth (luaStep mode c rest) }

/-- A file ends between directives, outside every block. -/
def finish (r : Reader) : Option (List Item) :=
  if (r.mode = .gap ∨ r.mode = .comment) ∧ r.blocks.args = [] ∧ r.blocks.outer = [] then
    some r.blocks.items
  else none

def readFrom (isLua : Text → Bool) (r : Reader) : Text → Option (List Item)
  | [] => finish r
  | c :: rest => (step isLua r c rest).bind (readFrom isLua · rest)

/-- The directives of a file; nothing where nginx refuses it. -/
def read (isLua : Text → Bool) (t : Text) : Option (List Item) := readFrom isLua .start t

/-! ## Contexts -/

/-- The arguments of the directives of that name, in order. -/
def argsOf (name : Text) (items : List Item) : List (List Text) :=
  items.filterMap fun
    | .simple (head :: args) => if head = name then some args else none
    | _ => none

/-- The blocks of that name, in order. -/
def bodiesOf (name : Text) (items : List Item) : List (List Item) :=
  items.filterMap fun
    | .block (head :: _) body => if head = name then some body else none
    | _ => none

def includeName : Text := text "include"

/-- What stands in place of an item: the contents of the file that it names, or itself. -/
def resolved (inner : Text → Option (List Item)) (item : Item) : Option (List Item) :=
  match argsOf includeName [item] with
  | [] => some [item]
  | [[path]] => inner path
  | _ => none

/-- A context with the files it includes in place, as deep as the bound allows. -/
def splice (files : Text → Option (List Item)) : Nat → List Item → Option (List Item)
  | 0, items => if argsOf includeName items = [] then some items else none
  | bound + 1, items =>
    (items.mapM (resolved fun path => (files path).bind (splice files bound))).map List.flatten

@[simp] theorem argsOf_nil (name : Text) : argsOf name [] = [] := rfl

@[simp] theorem bodiesOf_nil (name : Text) : bodiesOf name [] = [] := rfl

@[simp] theorem argsOf_append (name : Text) (a b : List Item) :
    argsOf name (a ++ b) = argsOf name a ++ argsOf name b := List.filterMap_append

@[simp] theorem bodiesOf_append (name : Text) (a b : List Item) :
    bodiesOf name (a ++ b) = bodiesOf name a ++ bodiesOf name b := List.filterMap_append

theorem argsOf_cons (name : Text) (item : Item) (items : List Item) :
    argsOf name (item :: items) = argsOf name [item] ++ argsOf name items :=
  argsOf_append name [item] items

theorem bodiesOf_cons (name : Text) (item : Item) (items : List Item) :
    bodiesOf name (item :: items) = bodiesOf name [item] ++ bodiesOf name items :=
  bodiesOf_append name [item] items

@[simp] theorem argsOf_block (name : Text) (header : List Text) (body : List Item) :
    argsOf name [.block header body] = [] := rfl

@[simp] theorem argsOf_lua (name : Text) (args : List Text) : argsOf name [.lua args] = [] := rfl

@[simp] theorem bodiesOf_simple (name : Text) (args : List Text) :
    bodiesOf name [.simple args] = [] := rfl

@[simp] theorem bodiesOf_lua (name : Text) (args : List Text) : bodiesOf name [.lua args] = [] := rfl

theorem argsOf_simple (name : Text) (args : List Text) :
    argsOf name [.simple args] = if args.head? = some name then [args.tail] else [] := by
  cases args with
  | nil => rfl
  | cons head args => by_cases same : head = name <;> simp [argsOf, same]

theorem bodiesOf_block (name : Text) (header : List Text) (body : List Item) :
    bodiesOf name [.block header body] = if header.head? = some name then [body] else [] := by
  cases header with
  | nil => rfl
  | cons head args => by_cases same : head = name <;> simp [bodiesOf, same]

variable {files : Text → Option (List Item)} {items inner : List Item}

@[simp] theorem flatten_singletons (items : List Item) : (items.map ([·])).flatten = items := by
  rw [← List.flatMap_def, List.flatMap_singleton']

theorem mapM_resolved (f : Text → Option (List Item)) (h : argsOf includeName items = []) :
    items.mapM (resolved f) = some (items.map ([·])) := by
  induction items with
  | nil => rfl
  | cons item items ih =>
    rw [argsOf_cons, List.append_eq_nil_iff] at h
    have first : resolved f item = some [item] := by rw [resolved, h.1]
    rw [List.mapM_cons, first, ih h.2]
    rfl

/-- A context that includes nothing stays as it is. -/
theorem splice_self (bound : Nat) (h : argsOf includeName items = []) :
    splice files bound items = some items := by
  cases bound with
  | zero => rw [splice, if_pos h]
  | succ bound =>
    rw [splice, mapM_resolved _ h, Option.map_some, flatten_singletons]

/-- Where a context includes one file. -/
theorem split_include {path : Text} (h : argsOf includeName items = [[path]]) :
    ∃ before item after, items = before ++ item :: after ∧ argsOf includeName before = [] ∧
      argsOf includeName [item] = [[path]] ∧ argsOf includeName after = [] := by
  induction items with
  | nil => cases h
  | cons item items ih =>
    rw [argsOf_cons] at h
    cases first : argsOf includeName [item] with
    | nil =>
      rw [first, List.nil_append] at h
      obtain ⟨before, item', after, rfl, none, one, rest⟩ := ih h
      refine ⟨item :: before, item', after, rfl, ?_, one, rest⟩
      rw [argsOf_cons, first, none, List.append_nil]
    | cons args others =>
      rw [first, List.cons_append, List.cons.injEq, List.append_eq_nil_iff] at h
      obtain ⟨rfl, rfl, rest⟩ := h
      exact ⟨[], item, items, rfl, rfl, first, rest⟩

theorem include_is_simple {item : Item} {args : List Text} (h : argsOf includeName [item] = [args]) :
    item = .simple (includeName :: args) := by
  cases item with
  | simple all =>
    rw [argsOf_simple] at h
    split at h
    · rename_i head
      obtain ⟨rest, rfl⟩ := List.head?_eq_some_iff.mp head
      obtain rfl := (List.cons.inj h).1
      rfl
    · cases h
  | block header body => cases h
  | lua args => cases h

/-- A file that is included once adds its own directives and blocks, and nothing else
changes. -/
theorem splice_one {bound : Nat} {path : Text} {file : List Item}
    (once : argsOf includeName items = [[path]]) (found : files path = some file)
    (spliced : splice files bound file = some inner) :
    ∃ out, splice files (bound + 1) items = some out ∧
      (∀ name, name ≠ includeName → (argsOf name out).Perm (argsOf name items ++ argsOf name inner)) ∧
      ∀ name, (bodiesOf name out).Perm (bodiesOf name items ++ bodiesOf name inner) := by
  obtain ⟨before, item, after, rfl, none, one, rest⟩ := split_include once
  have here : resolved (fun path => (files path).bind (splice files bound)) item = some inner := by
    rw [resolved, one]
    simp [found, spliced]
  refine ⟨before ++ (inner ++ after), ?_, ?_, ?_⟩
  · rw [splice, List.mapM_append, mapM_resolved _ none, List.mapM_cons, here, mapM_resolved _ rest]
    simp
  · intro name other
    have silent : argsOf name [item] = [] := by
      rw [include_is_simple one, argsOf_simple, List.head?_cons, if_neg]
      exact fun same => other (Option.some.inj same).symm
    rw [argsOf_append, argsOf_append, argsOf_append, argsOf_cons name item, silent, List.nil_append,
      List.append_assoc]
    exact List.Perm.append_left _ List.perm_append_comm
  · intro name
    have silent : bodiesOf name [item] = [] := by rw [include_is_simple one, bodiesOf_simple]
    rw [bodiesOf_append, bodiesOf_append, bodiesOf_append, bodiesOf_cons name item, silent,
      List.nil_append, List.append_assoc]
    exact List.Perm.append_left _ List.perm_append_comm

end KonnectFapi.Lib.Nginx

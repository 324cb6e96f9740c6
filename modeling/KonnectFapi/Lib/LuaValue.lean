import KonnectFapi.Lib.ByteString
import Mathlib.Data.List.Sort
import Mathlib.Data.Rat.Defs

/-!
# Lua values and tables

A table is the list of its entries in the order `pairs` happens to visit them,
together with the border its length operator answers: Lua leaves both open, so
results quantified over tables hold for every choice. Numbers are rationals; a
number the language cannot represent exactly, or a non-finite one, is only ever
refused by an integrality test and is represented by any fraction. Functions,
cdata and userdata are opaque and identified by a tag.
-/

namespace KonnectFapi.Lib.Lua

inductive Key where
  | str (s : Bytes)
  | num (q : Rat)
  | other (id : Nat)
  deriving DecidableEq

inductive Value where
  | nil
  | bool (b : Bool)
  | num (q : Rat)
  | str (s : Bytes)
  | table (border : Nat) (entries : List (Key × Value))
  | other (tag : Bytes)

abbrev Table := List (Key × Value)

/-- The key a field name in the source denotes. -/
abbrev Key.name (s : String) : Key := .str (ascii s)

namespace Table

/-- `t[k]`. -/
def get : Table → Key → Value
  | [], _ => .nil
  | (k', v) :: rest, k => if k' = k then v else get rest k

/-- `t[k] = nil`. -/
def erase (t : Table) (k : Key) : Table := t.filter fun e => e.1 ≠ k

/-- `t[k] = v` for a `v` that is not nil. -/
def set (t : Table) (k : Key) (v : Value) : Table := erase t k ++ [(k, v)]

@[simp] theorem get_nil (k : Key) : get [] k = .nil := rfl

theorem get_append_of_not_mem (t u : Table) (k : Key) (h : ∀ e ∈ t, e.1 ≠ k) :
    get (t ++ u) k = get u k := by
  induction t with
  | nil => rfl
  | cons e rest ih =>
    rw [List.cons_append, get, if_neg (h e List.mem_cons_self)]
    exact ih fun e' he' => h e' (List.mem_cons_of_mem e he')

@[simp] theorem get_erase_self (t : Table) (k : Key) : get (erase t k) k = .nil := by
  have absent : ∀ e ∈ erase t k, e.1 ≠ k := by
    intro e he
    simpa [erase] using (List.mem_filter.mp he).2
  simpa using get_append_of_not_mem (erase t k) [] k absent

@[simp] theorem get_set_self (t : Table) (k : Key) (v : Value) : get (set t k v) k = v := by
  have absent : ∀ e ∈ erase t k, e.1 ≠ k := by
    intro e he
    simpa [erase] using (List.mem_filter.mp he).2
  rw [set, get_append_of_not_mem _ _ _ absent]
  simp [get]

/-- Dropping entries under other keys does not change a lookup. -/
theorem get_filter (t : Table) (k : Key) (p : Key → Bool) (hp : p k = true) :
    get (t.filter fun e => p e.1) k = get t k := by
  induction t with
  | nil => rfl
  | cons e rest ih =>
    obtain ⟨k', v⟩ := e
    by_cases hk : k' = k
    · subst hk
      simp [hp, get]
    · by_cases hp' : p k' = true
      · simp [hp', get, hk, ih]
      · simp [hp', get, hk, ih]

theorem get_erase_of_ne (t : Table) (k k' : Key) (h : k' ≠ k) : get (erase t k) k' = get t k' := by
  have := get_filter t k' (fun x => decide (x ≠ k)) (by simpa using h)
  simpa [erase] using this

theorem get_append_of_ne (t : Table) (k k' : Key) (v : Value) (h : k' ≠ k) :
    get (t ++ [(k, v)]) k' = get t k' := by
  induction t with
  | nil => simp [get, Ne.symm h]
  | cons e rest ih =>
    obtain ⟨key, value⟩ := e
    by_cases hk : key = k'
    · simp [get, hk]
    · simp [get, hk, ih]

theorem get_set_of_ne (t : Table) (k k' : Key) (v : Value) (h : k' ≠ k) :
    get (set t k v) k' = get t k' := by
  rw [set, get_append_of_ne _ _ _ _ h, get_erase_of_ne _ _ _ h]

theorem mem_set {t : Table} {k : Key} {v : Value} {e : Key × Value} :
    e ∈ set t k v ↔ (e ∈ t ∧ e.1 ≠ k) ∨ e = (k, v) := by
  simp [set, erase, List.mem_filter]

/-- A lookup that finds something finds an entry of the table. -/
theorem mem_of_get {t : Table} {k : Key} (h : get t k ≠ .nil) : (k, get t k) ∈ t := by
  induction t with
  | nil => exact absurd rfl h
  | cons e rest ih =>
    obtain ⟨key, value⟩ := e
    by_cases hk : key = k
    · subst hk
      simp [get]
    · simp only [get, hk, if_false] at h ⊢
      exact List.mem_cons_of_mem _ (ih h)

/-- The elements `ipairs` visits: indices from `i` up to the first absent one.
A table has no more consecutive indices than entries, which bounds the walk. -/
def itemsFrom (t : Table) : Nat → Nat → List Value
  | 0, _ => []
  | fuel + 1, i =>
    match get t (.num i) with
    | .nil => []
    | v => v :: itemsFrom t fuel (i + 1)

def items (t : Table) : List Value := itemsFrom t t.length 1

end Table

namespace Value

/-- `nil` and `false` are the two values a condition rejects. -/
def truthy : Value → Bool
  | .nil => false
  | .bool b => b
  | _ => true

def isNil : Value → Bool
  | .nil => true
  | _ => false

def isTable : Value → Bool
  | .table _ _ => true
  | _ => false

/-- The entries of a table; a value that is not one has none. -/
def fields : Value → Table
  | .table _ entries => entries
  | _ => []

/-- `#v`, meaningful for tables. -/
def border : Value → Nat
  | .table n _ => n
  | _ => 0

def str? : Value → Option Bytes
  | .str s => some s
  | _ => none

def num? : Value → Option Rat
  | .num q => some q
  | _ => none

/-- `v == s` for a string `s`. -/
def isStr (v : Value) (s : Bytes) : Bool := v.str? == some s

/-- `v == true`. -/
def isTrue : Value → Bool
  | .bool b => b
  | _ => false

/-- `v.name`. -/
def field (v : Value) (name : String) : Value := v.fields.get (.name name)

theorem isStr_iff {v : Value} {s : Bytes} : v.isStr s = true ↔ v = .str s := by
  cases v <;> simp [isStr, str?]

@[simp] theorem isStr_str (s t : Bytes) : (Value.str s).isStr t = (s == t) := by
  simp [isStr, str?]

theorem str?_eq_some {v : Value} {s : Bytes} : v.str? = some s ↔ v = .str s := by
  cases v <;> simp [str?]

theorem num?_eq_some {v : Value} {q : Rat} : v.num? = some q ↔ v = .num q := by
  cases v <;> simp [num?]

@[simp] theorem isNil_iff {v : Value} : v.isNil = true ↔ v = .nil := by
  cases v <;> simp [isNil]

end Value

end KonnectFapi.Lib.Lua

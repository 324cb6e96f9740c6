import KonnectFapi.Lib.LuaValue
import Mathlib.Algebra.BigOperators.Group.List.Lemmas
import Mathlib.Algebra.GroupWithZero.Nat

/-!
# Occurrences read into a table

A getter that reads named occurrences into a table keeps one entry a name: the value of
a single occurrence, the array of the values of several. Names may be folded on the way.
However `pairs` orders the entries, their weights add up to the occurrences.
-/

namespace KonnectFapi.Lib.Lua

/-- The entries of the array of some values. -/
def indexed (vs : List Value) : Table := vs.zipIdx.map fun v => (.num ((v.2 + 1 : Nat) : Rat), v.1)

/-- What the entry of a name holds for its values. -/
inductive Holds : Value → List Value → Prop
  | single (v : Value) (plain : v.isTable = false) : Holds v [v]
  | array (vs : List Value) (entries : Table) (several : 2 ≤ vs.length)
      (order : entries.Perm (indexed vs)) : Holds (.table vs.length entries) vs

def valuesOf (fold : Bytes → Bytes) (occurrences : List (Bytes × Value)) (key : Key) : List Value :=
  (occurrences.filter fun o => Key.str (fold o.1) = key).map Prod.snd

/-- `table` is what the occurrences are read into, names folded by `fold`. -/
structure TableOf (fold : Bytes → Bytes) (occurrences : List (Bytes × Value)) (table : Table) :
    Prop where
  distinct : (table.map Prod.fst).Nodup
  names : ∀ key, key ∈ table.map Prod.fst ↔ ∃ o ∈ occurrences, key = .str (fold o.1)
  values : ∀ e ∈ table, Holds e.2 (valuesOf fold occurrences e.1)

/-- How many occurrences an entry stands for. -/
def weight : Value → Nat
  | .table border _ => border
  | _ => 1

def totalWeight (table : Table) : Nat := (table.map fun e => weight e.2).sum

theorem Holds.weight_eq {value : Value} {vs : List Value} (h : Holds value vs) :
    weight value = vs.length := by
  cases h with
  | single v plain =>
    cases value with
    | table => cases plain
    | nil | bool | num | str | other => rfl
  | array => rfl

/-- The whole table stands for all occurrences. -/
theorem TableOf.totalWeight_eq {fold : Bytes → Bytes} {occurrences : List (Bytes × Value)}
    {table : Table} (h : TableOf fold occurrences table) :
    totalWeight table = occurrences.length := by
  let keys : List Key := occurrences.map fun o => .str (fold o.1)
  have each : ∀ e ∈ table, weight e.2 = keys.count e.1 := by
    intro e he
    rw [(h.values e he).weight_eq, valuesOf, List.length_map, List.count, List.countP_map,
      List.countP_eq_length_filter]
    congr 1
  have perm : (table.map Prod.fst).Perm keys.dedup := by
    rw [List.perm_ext_iff_of_nodup h.distinct (List.nodup_dedup keys)]
    intro key
    rw [h.names, List.mem_dedup, List.mem_map]
    exact ⟨fun ⟨o, ho, hk⟩ => ⟨o, ho, hk.symm⟩, fun ⟨o, ho, hk⟩ => ⟨o, ho, hk.symm⟩⟩
  calc totalWeight table
      = ((table.map Prod.fst).map keys.count).sum := by
        rw [List.map_map, totalWeight]
        exact congrArg List.sum (List.map_congr_left each)
    _ = (keys.dedup.map keys.count).sum := (perm.map keys.count).sum_eq
    _ = occurrences.length := by
        rw [List.sum_map_count_dedup_eq_length, List.length_map]

/-- Every occurrence has an entry under its folded name. -/
theorem TableOf.mem_of_mem {fold : Bytes → Bytes} {occurrences : List (Bytes × Value)}
    {table : Table} (h : TableOf fold occurrences table) {o : Bytes × Value}
    (ho : o ∈ occurrences) : ∃ value, (Key.str (fold o.1), value) ∈ table := by
  obtain ⟨e, he, hkey⟩ := List.mem_map.mp ((h.names _).mpr ⟨o, ho, rfl⟩)
  exact ⟨e.2, hkey ▸ he⟩

/-- Every entry is that of some occurrence. -/
theorem TableOf.exists_of_mem {fold : Bytes → Bytes} {occurrences : List (Bytes × Value)}
    {table : Table} (h : TableOf fold occurrences table) {e : Key × Value} (he : e ∈ table) :
    ∃ o ∈ occurrences, e.1 = .str (fold o.1) :=
  (h.names e.1).mp (List.mem_map_of_mem he)

end KonnectFapi.Lib.Lua

import KonnectFapi.Lib.Json
import KonnectFapi.Lib.LuaValue

/-!
# JSON documents as Lua values

A decoder is free in the order of a table's entries and in the border it leaves; a number
without fraction is that number and a text is its UTF-8 bytes. Arrays are keyed from one.
-/

namespace KonnectFapi.Lib.Lua
open Json

/-- The entries of an array, from the index `k` on. -/
def fromIndex (k : Nat) : List Value → Table
  | [] => []
  | v :: rest => (.num k, v) :: fromIndex (k + 1) rest

inductive DecodesTo : Json → Value → Prop
  | null (tag : Bytes) : DecodesTo .null (.other tag)
  | bool (b : Bool) : DecodesTo (.bool b) (.bool b)
  | int (n : Int) : DecodesTo (.int n) (.num n)
  | float (literal : Text) (q : Rat) : DecodesTo (.float literal) (.num q)
  | str {t : Text} {s : Bytes} : encodeUtf8 t = some s → DecodesTo (.str t) (.str s)
  | arr {items : List Json} {values : List Value} {border : Nat} {entries : Table} :
      List.Forall₂ DecodesTo items values → entries.Perm (fromIndex 1 values) →
      DecodesTo (.arr items) (.table border entries)
  | obj {found : List (Text × Json)} {names : List Bytes} {values : List Value} {border : Nat}
      {entries : Table} :
      List.Forall₂ (fun m name => encodeUtf8 m.1 = some name) found names →
      List.Forall₂ DecodesTo (found.map Prod.snd) values →
      entries.Perm ((names.map Key.str).zip values) → DecodesTo (.obj found) (.table border entries)

/-! ## Tables -/

theorem Table.get_of_mem {t : Table} (h : (t.map Prod.fst).Nodup) {k : Key} {v : Value}
    (hmem : (k, v) ∈ t) : t.get k = v := by
  induction t with
  | nil => cases hmem
  | cons e rest ih =>
    obtain ⟨fresh, hrest⟩ := List.nodup_cons.mp h
    obtain ⟨key, value⟩ := e
    rcases List.mem_cons.mp hmem with heq | hmem
    · obtain ⟨rfl, rfl⟩ := Prod.mk.inj heq
      exact if_pos rfl
    · have hne : key ≠ k := by
        rintro rfl
        exact fresh (List.mem_map.mpr ⟨_, hmem, rfl⟩)
      exact (if_neg hne).trans (ih hrest hmem)

theorem mem_fromIndex {values : List Value} {k : Nat} {e : Key × Value} :
    e ∈ fromIndex k values ↔ ∃ i, values[i]? = some e.2 ∧ e.1 = .num ((k + i : Nat) : Rat) := by
  induction values generalizing k with
  | nil => simp [fromIndex]
  | cons v rest ih =>
    obtain ⟨key, value⟩ := e
    rw [fromIndex, List.mem_cons, ih]
    constructor
    · rintro (heq | ⟨i, hvalue, hkey⟩)
      · obtain ⟨rfl, rfl⟩ := Prod.mk.inj heq
        exact ⟨0, rfl, rfl⟩
      · exact ⟨i + 1, hvalue, by rw [hkey]; congr 2; omega⟩
    · rintro ⟨i, hvalue, hkey⟩
      cases i with
      | zero =>
        rw [List.getElem?_cons_zero, Option.some.injEq] at hvalue
        exact Or.inl (Prod.ext hkey hvalue.symm)
      | succ i => exact Or.inr ⟨i, hvalue, by rw [hkey]; congr 2; omega⟩

@[simp] theorem length_fromIndex (k : Nat) (values : List Value) :
    (fromIndex k values).length = values.length := by
  induction values generalizing k with
  | nil => rfl
  | cons v rest ih => rw [fromIndex, List.length_cons, List.length_cons, ih]

theorem values_fromIndex (k : Nat) (values : List Value) :
    (fromIndex k values).map Prod.snd = values := by
  induction values generalizing k with
  | nil => rfl
  | cons v rest ih => rw [fromIndex, List.map_cons, ih]

/-! ## Documents -/

namespace DecodesTo

theorem inv_int {n : Int} {v : Value} (h : DecodesTo (.int n) v) : v = .num n := by
  cases h
  rfl

theorem inv_str {t : Text} {v : Value} (h : DecodesTo (.str t) v) :
    ∃ s, encodeUtf8 t = some s ∧ v = .str s := by
  cases h with
  | str hs => exact ⟨_, hs, rfl⟩

/-- The elements of an array, under the indices in some order. -/
theorem inv_arr {items : List Json} {v : Value} (h : DecodesTo (.arr items) v) :
    ∃ values, List.Forall₂ DecodesTo items values ∧ v.isTable = true ∧
      v.fields.Perm (fromIndex 1 values) := by
  cases h with
  | arr hvalues hperm => exact ⟨_, hvalues, rfl, hperm⟩

/-- The names of an object are the keys of the table. -/
structure ObjectOf (found : List (Text × Json)) (v : Value) : Prop where
  isTable : v.isTable = true
  keys : ∃ names, List.Forall₂ (fun m name => encodeUtf8 m.1 = some name) found names ∧
    (v.fields.map Prod.fst).Perm (names.map Key.str)
  member : ∀ name j key, (name, j) ∈ found → encodeUtf8 name = some key →
    DecodesTo j (v.fields.get (.str key))

theorem mem_zip_of_forall₂ {found : List (Text × Json)} {names : List Bytes} {values : List Value}
    (hnames : List.Forall₂ (fun m name => encodeUtf8 m.1 = some name) found names)
    (hvalues : List.Forall₂ DecodesTo (found.map Prod.snd) values) {name : Text} {j : Json} {key : Bytes}
    (hmem : (name, j) ∈ found) (hkey : encodeUtf8 name = some key) :
    ∃ v, (Key.str key, v) ∈ (names.map Key.str).zip values ∧ DecodesTo j v := by
  induction hnames generalizing values with
  | nil => cases hmem
  | @cons m bytes rest more head _ ih =>
    rw [List.map_cons] at hvalues
    obtain ⟨v, others, hv, hothers, rfl⟩ := List.forall₂_cons_left_iff.mp hvalues
    rw [List.map_cons, List.zip_cons_cons]
    rcases List.mem_cons.mp hmem with rfl | hmem
    · obtain rfl := Option.some.inj (hkey.symm.trans head)
      exact ⟨v, List.mem_cons_self, hv⟩
    · obtain ⟨w, hw, hmirrors⟩ := ih hothers hmem
      exact ⟨w, List.mem_cons_of_mem _ hw, hmirrors⟩

theorem inv_obj {found : List (Text × Json)} {v : Value} (h : DecodesTo (.obj found) v)
    (hnodup : (found.map Prod.fst).Nodup) : ObjectOf found v := by
  cases h with
  | @obj _ names values border entries hnames hvalues hperm =>
    have hlength : (names.map Key.str).length = values.length := by
      rw [List.length_map, ← hnames.length_eq, ← hvalues.length_eq, List.length_map]
    have hkeys : (entries.map Prod.fst).Perm (names.map Key.str) := by
      have hmap := hperm.map Prod.fst
      rwa [List.map_fst_zip (Nat.le_of_eq hlength)] at hmap
    have hdistinct : (names.map Key.str).Nodup := by
      refine (List.nodup_map_iff (fun _ _ h => Key.str.inj h)).mpr ?_
      clear hvalues hperm hlength hkeys
      induction hnames with
      | nil => exact List.nodup_nil
      | @cons m name rest more head tail ih =>
        obtain ⟨fresh, hrest⟩ := List.nodup_cons.mp hnodup
        refine List.nodup_cons.mpr ⟨fun hmem => fresh ?_, ih hrest⟩
        obtain ⟨i, hi, hget⟩ := List.mem_iff_getElem.mp hmem
        have hi' : i < rest.length := by rwa [tail.length_eq]
        have hsame := tail.get hi' hi
        rw [List.get_eq_getElem, List.get_eq_getElem, hget] at hsame
        rw [encodeUtf8_injective head hsame]
        exact List.mem_map_of_mem (List.getElem_mem hi')
    refine ⟨rfl, ⟨names, hnames, hkeys⟩, fun name j key hmem hkey => ?_⟩
    obtain ⟨w, hw, hmirrors⟩ := mem_zip_of_forall₂ hnames hvalues hmem hkey
    have hget : Table.get entries (.str key) = w :=
      Table.get_of_mem (hkeys.nodup_iff.mpr hdistinct) (hperm.mem_iff.mpr hw)
    rw [← hget] at hmirrors
    exact hmirrors

end DecodesTo

end KonnectFapi.Lib.Lua

import KonnectFapi.Lib.Lookup
import Mathlib.Data.List.Nodup

/-!
# Records under identifiers

A collection of records, each under an identifier of its own that the collection chose
when the record was stored.
-/

namespace KonnectFapi.Lib

/-- Identifiers that are not taken yet. -/
structure IdSupply (ι : Type) where
  next : List ι → ι
  fresh : ∀ taken, next taken ∉ taken

@[ext]
structure Store (ι α : Type) where
  entries : List (ι × α)
  distinct : (entries.map Prod.fst).Nodup

namespace Store

variable {ι α β : Type}

def ids (s : Store ι α) : List ι := s.entries.map Prod.fst

def empty : Store ι α := ⟨[], List.nodup_nil⟩

def add (supply : IdSupply ι) (s : Store ι α) (a : α) : Store ι α where
  entries := s.entries ++ [(supply.next s.ids, a)]
  distinct := by
    rw [List.map_append, List.map_cons, List.map_nil]
    exact List.nodup_append'.mpr ⟨s.distinct, List.nodup_singleton _,
      List.disjoint_singleton.mpr (supply.fresh _)⟩

variable [DecidableEq ι]

def find? (s : Store ι α) (id : ι) : Option α := s.entries.lookup id

def modify (s : Store ι α) (id : ι) (f : α → α) : Store ι α where
  entries := s.entries.map fun e => (e.1, if e.1 = id then f e.2 else e.2)
  distinct := by
    rw [List.map_map]
    exact s.distinct

theorem find?_eq_some {s : Store ι α} {id : ι} {a : α} :
    s.find? id = some a ↔ (id, a) ∈ s.entries := lookup_eq_some_iff s.distinct

/-- One identifier, one record. -/
theorem eq_of_mem {s : Store ι α} {id : ι} {a b : α} (ha : (id, a) ∈ s.entries)
    (hb : (id, b) ∈ s.entries) : a = b :=
  Option.some.inj ((find?_eq_some.mpr ha).symm.trans (find?_eq_some.mpr hb))

theorem find?_modify_self {s : Store ι α} {id : ι} {a : α} (f : α → α) (h : s.find? id = some a) :
    (s.modify id f).find? id = some (f a) := by
  refine find?_eq_some.mpr (List.mem_map.mpr ⟨(id, a), find?_eq_some.mp h, ?_⟩)
  rw [if_pos rfl]

theorem find?_modify_of_ne {s : Store ι α} {id id' : ι} (f : α → α) (h : id' ≠ id) :
    (s.modify id f).find? id' = s.find? id' := by
  apply Option.ext
  intro a
  rw [find?_eq_some, find?_eq_some]
  constructor
  · intro hmem
    obtain ⟨⟨other, b⟩, he, heq⟩ := List.mem_map.mp hmem
    obtain ⟨rfl, rfl⟩ := Prod.mk.inj heq
    rwa [if_neg h]
  · intro hmem
    exact List.mem_map.mpr ⟨(id', a), hmem, by rw [if_neg h]⟩

theorem modify_modify (s : Store ι α) (id : ι) (f g : α → α) :
    (s.modify id f).modify id g = s.modify id fun a => g (f a) := by
  apply Store.ext
  simp only [modify, List.map_map]
  refine List.map_congr_left fun e _ => ?_
  by_cases h : e.1 = id <;> simp [h]

/-- A record that stays as it is leaves the collection as it is. -/
theorem modify_eq_self {s : Store ι α} {id : ι} {a : α} {f : α → α} (h : s.find? id = some a)
    (hf : f a = a) : s.modify id f = s := by
  apply Store.ext
  refine (List.map_congr_left fun e he => ?_).trans (List.map_id _)
  by_cases hid : e.1 = id
  · have heq : e.2 = a := eq_of_mem (hid ▸ he) (find?_eq_some.mp h)
    rw [if_pos hid, heq, hf, ← heq]
    rfl
  · rw [if_neg hid]
    rfl

theorem modify_congr {s : Store ι α} {id : ι} {a : α} {f g : α → α} (h : s.find? id = some a)
    (hfg : f a = g a) : s.modify id f = s.modify id g := by
  apply Store.ext
  refine List.map_congr_left fun e he => ?_
  by_cases hid : e.1 = id
  · have heq : e.2 = a := eq_of_mem (hid ▸ he) (find?_eq_some.mp h)
    rw [if_pos hid, if_pos hid, heq, hfg]
  · rw [if_neg hid, if_neg hid]

theorem isSome_find?_modify {s : Store ι α} {id id' : ι} (f : α → α)
    (h : (s.find? id').isSome) : ((s.modify id f).find? id').isSome := by
  obtain ⟨a, ha⟩ := Option.isSome_iff_exists.mp h
  by_cases hid : id' = id
  · subst hid
    rw [find?_modify_self f ha, Option.isSome_some]
  · rw [find?_modify_of_ne f hid, ha, Option.isSome_some]

theorem find?_add {supply : IdSupply ι} {s : Store ι α} {id : ι} {a b : α}
    (h : s.find? id = some a) : (s.add supply b).find? id = some a :=
  find?_eq_some.mpr (List.mem_append_left _ (find?_eq_some.mp h))

@[simp] theorem ids_modify (s : Store ι α) (id : ι) (f : α → α) : (s.modify id f).ids = s.ids := by
  simp [ids, modify, Function.comp_def]

end Store

end KonnectFapi.Lib

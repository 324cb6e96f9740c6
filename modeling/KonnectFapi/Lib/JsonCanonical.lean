import KonnectFapi.Lib.JsonRoundTrip
import KonnectFapi.Lib.JsonTexts
import KonnectFapi.Lib.Lookup
import KonnectFapi.Lib.SortOn

/-!
# Canonical documents

Two documents without repeated names are the same value when their objects hold the
same members in whatever order. Printed with sorted names, the same values give the
same bytes, and the bytes give the value back.
-/

namespace KonnectFapi.Lib.Json

mutual
/-- The document with the members of every object in the order of their names. -/
def sortKeys : Json → Json
  | .arr items => .arr (sortItems items)
  | .obj found => .obj (sortOn Prod.fst (sortMembers found))
  | v => v

def sortItems : List Json → List Json
  | [] => []
  | v :: rest => sortKeys v :: sortItems rest

def sortMembers : List (Text × Json) → List (Text × Json)
  | [] => []
  | (name, v) :: rest => (name, sortKeys v) :: sortMembers rest
end

mutual
/-- The document with every float's text replaced. -/
def mapFloats (f : Text → Text) : Json → Json
  | .float literal => .float (f literal)
  | .arr items => .arr (mapItems f items)
  | .obj found => .obj (mapMembers f found)
  | v => v

def mapItems (f : Text → Text) : List Json → List Json
  | [] => []
  | v :: rest => mapFloats f v :: mapItems f rest

def mapMembers (f : Text → Text) : List (Text × Json) → List (Text × Json)
  | [] => []
  | (name, v) :: rest => (name, mapFloats f v) :: mapMembers f rest
end

mutual
/-- No object in the document repeats a name. -/
def Unique : Json → Prop
  | .arr items => UniqueItems items
  | .obj found => (found.map Prod.fst).Nodup ∧ UniqueMembers found
  | _ => True

def UniqueItems : List Json → Prop
  | [] => True
  | v :: rest => Unique v ∧ UniqueItems rest

def UniqueMembers : List (Text × Json) → Prop
  | [] => True
  | (_, v) :: rest => Unique v ∧ UniqueMembers rest
end

mutual
/-- The same value: objects hold the same names, in any order, with the same values. -/
def Same : Json → Json → Prop
  | .null, .null => True
  | .bool a, .bool b => a = b
  | .int m, .int n => m = n
  | .float s, .float t => s = t
  | .str s, .str t => s = t
  | .arr xs, .arr ys => SameItems xs ys
  | .obj xs, .obj ys => xs.length = ys.length ∧ SameMembers xs ys
  | _, _ => False

def SameItems : List Json → List Json → Prop
  | [], [] => True
  | v :: xs, w :: ys => Same v w ∧ SameItems xs ys
  | _, _ => False

/-- Every member is found, with the same value, among the other ones. -/
def SameMembers : List (Text × Json) → List (Text × Json) → Prop
  | [], _ => True
  | (name, v) :: rest, ys => (∃ w, ys.lookup name = some w ∧ Same v w) ∧ SameMembers rest ys
end

mutual
/-- Some float of the document has a text with the property. -/
def anyFloat (p : Text → Bool) : Json → Bool
  | .float literal => p literal
  | .arr items => anyFloatItems p items
  | .obj found => anyFloatMembers p found
  | _ => false

def anyFloatItems (p : Text → Bool) : List Json → Bool
  | [] => false
  | v :: rest => anyFloat p v || anyFloatItems p rest

def anyFloatMembers (p : Text → Bool) : List (Text × Json) → Bool
  | [] => false
  | (_, v) :: rest => anyFloat p v || anyFloatMembers p rest
end

/-- `set(mapping) == {names}`. -/
def namesAre (found : List (Text × Json)) (names : List String) : Bool :=
  found.all (fun m => names.any fun name => m.1 == text name) &&
    names.all fun name => found.any fun m => m.1 == text name

/-- `json.dumps(value, ensure_ascii=True, sort_keys=True, separators=(",", ":"))`. -/
def canonical (v : Json) : Bytes := print (sortKeys v)

theorem sortItems_eq (items : List Json) : sortItems items = items.map sortKeys := by
  induction items with
  | nil => rfl
  | cons v rest ih => simp [sortItems, ih]

theorem sortMembers_eq (found : List (Text × Json)) :
    sortMembers found = found.map fun m => (m.1, sortKeys m.2) := by
  induction found with
  | nil => rfl
  | cons m rest ih => simp [sortMembers, ih]

theorem mapItems_eq (f : Text → Text) (items : List Json) :
    mapItems f items = items.map (mapFloats f) := by
  induction items with
  | nil => rfl
  | cons v rest ih => simp [mapItems, ih]

theorem mapMembers_eq (f : Text → Text) (found : List (Text × Json)) :
    mapMembers f found = found.map fun m => (m.1, mapFloats f m.2) := by
  induction found with
  | nil => rfl
  | cons m rest ih => simp [mapMembers, ih]

@[simp] theorem sortMembers_names (found : List (Text × Json)) :
    (sortMembers found).map Prod.fst = found.map Prod.fst := by
  simp [sortMembers_eq]

@[simp] theorem mapMembers_names (f : Text → Text) (found : List (Text × Json)) :
    (mapMembers f found).map Prod.fst = found.map Prod.fst := by
  simp [mapMembers_eq]

theorem uniqueItems_iff {items : List Json} : UniqueItems items ↔ ∀ v ∈ items, Unique v := by
  induction items with
  | nil => simp [UniqueItems]
  | cons v rest ih => simp [UniqueItems, ih]

theorem uniqueMembers_iff {found : List (Text × Json)} :
    UniqueMembers found ↔ ∀ m ∈ found, Unique m.2 := by
  induction found with
  | nil => simp [UniqueMembers]
  | cons m rest ih => simp [UniqueMembers, ih]

/-! ## Sorting the names decides sameness -/

/-- Member lists without repeated names are sorted to one list when they have one size and
the members of one are among those of the other. -/
theorem sortOn_members_iff {xs ys : List (Text × Json)} (hx : (xs.map Prod.fst).Nodup) :
    sortOn Prod.fst xs = sortOn Prod.fst ys ↔ xs.length = ys.length ∧ xs ⊆ ys := by
  rw [sortOn_eq_iff hx]
  refine ⟨fun h => ⟨h.length_eq, h.subset⟩, fun ⟨hlen, hsub⟩ => ?_⟩
  exact (List.subperm_of_subset hx.of_map hsub).perm_of_length_le hlen.ge

mutual
theorem sortKeys_eq_iff : {v w : Json} → Unique v → Unique w → (sortKeys v = sortKeys w ↔ Same v w)
  | .arr xs, .arr ys, hv, hw => by
    simp only [sortKeys, Same, arr.injEq]
    exact sortItems_eq_iff hv hw
  | .obj xs, .obj ys, hv, hw => by
    have hlen (zs : List (Text × Json)) : (sortMembers zs).length = zs.length := by
      simp [sortMembers_eq]
    simp only [sortKeys, Same, obj.injEq]
    rw [sortOn_members_iff (by simpa using hv.1), hlen, hlen]
    refine and_congr_right fun _ => ?_
    exact sortMembers_subset_iff hv.2 hw
  | .null, w, _, _ => by cases w <;> simp [sortKeys, Same]
  | .bool b, w, _, _ => by cases w <;> simp [sortKeys, Same]
  | .int n, w, _, _ => by cases w <;> simp [sortKeys, Same]
  | .float l, w, _, _ => by cases w <;> simp [sortKeys, Same]
  | .str s, w, _, _ => by cases w <;> simp [sortKeys, Same]
  | .arr xs, .null, _, _ => by simp [sortKeys, Same]
  | .arr xs, .bool b, _, _ => by simp [sortKeys, Same]
  | .arr xs, .int n, _, _ => by simp [sortKeys, Same]
  | .arr xs, .float l, _, _ => by simp [sortKeys, Same]
  | .arr xs, .str s, _, _ => by simp [sortKeys, Same]
  | .arr xs, .obj ys, _, _ => by simp [sortKeys, Same]
  | .obj xs, .null, _, _ => by simp [sortKeys, Same]
  | .obj xs, .bool b, _, _ => by simp [sortKeys, Same]
  | .obj xs, .int n, _, _ => by simp [sortKeys, Same]
  | .obj xs, .float l, _, _ => by simp [sortKeys, Same]
  | .obj xs, .str s, _, _ => by simp [sortKeys, Same]
  | .obj xs, .arr ys, _, _ => by simp [sortKeys, Same]

theorem sortItems_eq_iff : {xs ys : List Json} → UniqueItems xs → UniqueItems ys →
    (sortItems xs = sortItems ys ↔ SameItems xs ys)
  | [], [], _, _ => by simp [sortItems, SameItems]
  | [], _ :: _, _, _ => by simp [sortItems, SameItems]
  | _ :: _, [], _, _ => by simp [sortItems, SameItems]
  | v :: xs, w :: ys, hx, hy => by
    simp only [sortItems, SameItems, List.cons.injEq]
    exact and_congr (sortKeys_eq_iff hx.1 hy.1) (sortItems_eq_iff hx.2 hy.2)

theorem sortMembers_subset_iff : {xs ys : List (Text × Json)} → UniqueMembers xs →
    Unique (.obj ys) → (sortMembers xs ⊆ sortMembers ys ↔ SameMembers xs ys)
  | [], _, _, _ => by simp [sortMembers, SameMembers]
  | (name, v) :: rest, ys, hx, hy => by
    simp only [sortMembers, SameMembers, List.cons_subset]
    refine and_congr ?_ (sortMembers_subset_iff hx.2 hy)
    constructor
    · intro h
      rw [sortMembers_eq] at h
      obtain ⟨⟨name', w⟩, hmem, heq⟩ := List.mem_map.mp h
      obtain ⟨rfl, hsorted⟩ := Prod.mk.inj heq
      refine ⟨w, lookup_eq_some_of_mem hy.1 hmem, ?_⟩
      exact (sortKeys_eq_iff hx.1 (uniqueMembers_iff.mp hy.2 _ hmem)).mp hsorted.symm
    · rintro ⟨w, hw, hsame⟩
      have hmem := mem_of_lookup_eq_some hw
      rw [sortMembers_eq, (sortKeys_eq_iff hx.1 (uniqueMembers_iff.mp hy.2 _ hmem)).mpr hsame]
      exact List.mem_map.mpr ⟨_, hmem, rfl⟩
end

/-! ## Canonical text -/

theorem unique_eq_some {found : List (Text × Json)} {v : Json} :
    unique found = some v ↔ (found.map Prod.fst).Nodup ∧ v = .obj found := by
  unfold unique
  split
  · rename_i h
    simp [h, eq_comm]
  · rename_i h
    simp [h]

/-- A hook that keeps the members as they were written. -/
def pairs (found : List (Text × Json)) : Option Json := some (.obj found)

/-- What the refusing reader returns is the document as it was written. -/
theorem loads_pairs {t : Text} {v : Json} (h : loads unique t = some v) : loads pairs t = some v := by
  refine loads_lenient (fun found v hooked => ?_) h
  rw [(unique_eq_some.mp hooked).2]
  rfl

/-- The refusing reader returns no repeated name, at any depth. -/
theorem unique_of_loads {t : Text} {v : Json} (plain : Scalar t) (h : loads unique t = some v) :
    Unique v :=
  loads_kept
    { null := trivial
      bool := fun _ => trivial
      int := fun _ => trivial
      float := fun _ => trivial
      str := fun _ _ => trivial
      arr := fun _ parts => uniqueItems_iff.mpr parts
      obj := by
        intro found v hooked parts
        obtain ⟨distinct, rfl⟩ := unique_eq_some.mp hooked
        exact ⟨distinct, uniqueMembers_iff.mpr fun m hm => (parts m hm).2⟩ } plain h

theorem readableItems_iff {hook : List (Text × Json) → Option Json} {items : List Json} :
    ReadableItems hook items ↔ ∀ v ∈ items, Readable hook v := by
  induction items with
  | nil => simp [ReadableItems]
  | cons v rest ih => simp [ReadableItems, ih]

theorem readableMembers_iff {hook : List (Text × Json) → Option Json}
    {found : List (Text × Json)} :
    ReadableMembers hook found ↔ ∀ m ∈ found, hasPair m.1 = false ∧ Readable hook m.2 := by
  induction found with
  | nil => simp [ReadableMembers]
  | cons m rest ih => simp [ReadableMembers, ih, and_assoc]

mutual
theorem unique_of_readable : {v : Json} → Readable unique v → Unique v
  | .null, _ => trivial
  | .bool _, _ => trivial
  | .int _, _ => trivial
  | .float _, _ => trivial
  | .str _, _ => trivial
  | .arr _, h => uniqueItems_of_readable h
  | .obj _, h => ⟨(unique_eq_some.mp h.1).1, uniqueMembers_of_readable h.2⟩

theorem uniqueItems_of_readable : {items : List Json} → ReadableItems unique items →
    UniqueItems items
  | [], _ => trivial
  | _ :: _, h => ⟨unique_of_readable h.1, uniqueItems_of_readable h.2⟩

theorem uniqueMembers_of_readable : {found : List (Text × Json)} → ReadableMembers unique found →
    UniqueMembers found
  | [], _ => trivial
  | _ :: _, h => ⟨unique_of_readable h.2.1, uniqueMembers_of_readable h.2.2⟩
end

mutual
theorem readable_sortKeys : {v : Json} → Readable unique v → Readable unique (sortKeys v)
  | .null, _ => trivial
  | .bool _, _ => trivial
  | .int _, _ => trivial
  | .float _, h => h
  | .str _, h => h
  | .arr _, h => readableItems_iff.mpr (readable_sortItems h)
  | .obj found, h => by
    have hnames : ((sortMembers found).map Prod.fst).Nodup := by
      simpa using (unique_eq_some.mp h.1).1
    refine ⟨unique_eq_some.mpr ⟨nodup_sortOn hnames, rfl⟩, readableMembers_iff.mpr fun m hm => ?_⟩
    exact readable_sortMembers h.2 m (mem_sortOn.mp hm)

theorem readable_sortItems : {items : List Json} → ReadableItems unique items →
    ∀ v ∈ sortItems items, Readable unique v
  | [], _ => by simp [sortItems]
  | _ :: _, h => by
    rw [sortItems, List.forall_mem_cons]
    exact ⟨readable_sortKeys h.1, readable_sortItems h.2⟩

theorem readable_sortMembers : {found : List (Text × Json)} → ReadableMembers unique found →
    ∀ m ∈ sortMembers found, hasPair m.1 = false ∧ Readable unique m.2
  | [], _ => by simp [sortMembers]
  | _ :: _, h => by
    rw [sortMembers, List.forall_mem_cons]
    exact ⟨⟨h.1, readable_sortKeys h.2.1⟩, readable_sortMembers h.2.2⟩
end

/-- Two documents have one canonical text exactly when they are the same value. -/
theorem canonical_eq_iff {v w : Json} (hv : Readable unique v) (hw : Readable unique w) :
    canonical v = canonical w ↔ Same v w := by
  rw [← sortKeys_eq_iff (unique_of_readable hv) (unique_of_readable hw)]
  refine ⟨fun h => ?_, fun h => congrArg print h⟩
  have hread := loads_print unique (readable_sortKeys hv)
  rw [show print (sortKeys v) = print (sortKeys w) from h,
    loads_print unique (readable_sortKeys hw)] at hread
  exact (Option.some.inj hread).symm

/-! ## Sorted documents read as before -/

theorem lookup_sortMembers (found : List (Text × Json)) (name : Text) :
    (sortMembers found).lookup name = (found.lookup name).map sortKeys := by
  induction found with
  | nil => rfl
  | cons m rest ih =>
    obtain ⟨n, v⟩ := m
    simp only [sortMembers, List.lookup_cons]
    split
    · rfl
    · exact ih

/-- A member of the sorted object is the sorted member. -/
theorem get?_sortKeys {v : Json} (h : Unique v) (name : Text) :
    (sortKeys v).get? name = (v.get? name).map sortKeys := by
  cases v with
  | obj found =>
    have hnames : ((sortMembers found).map Prod.fst).Nodup := by simpa using h.1
    simp only [sortKeys, get?]
    rw [lookup_perm (sortOn_perm _ _) (nodup_sortOn hnames), lookup_sortMembers]
  | _ => rfl

theorem unique_get? {v w : Json} (h : Unique v) {name : Text} (hw : v.get? name = some w) :
    Unique w := by
  cases v with
  | obj found => exact uniqueMembers_iff.mp h.2 _ (mem_of_lookup_eq_some hw)
  | _ => cases hw

theorem readable_get? {hook : List (Text × Json) → Option Json} {v w : Json}
    (h : Readable hook v) {name : Text} (hw : v.get? name = some w) : Readable hook w := by
  cases v with
  | obj found => exact (readableMembers_iff.mp h.2 _ (mem_of_lookup_eq_some hw)).2
  | _ => cases hw

theorem str?_sortKeys (v : Json) : (sortKeys v).str? = v.str? := by
  cases v <;> rfl

theorem sameItems_iff {xs ys : List Json} : SameItems xs ys ↔ List.Forall₂ Same xs ys := by
  induction xs generalizing ys with
  | nil => cases ys <;> simp [SameItems]
  | cons v rest ih => cases ys <;> simp [SameItems, ih]

theorem sameMembers_values {ys : List (Text × Json)} (hy : (ys.map Prod.fst).Nodup)
    {xs zs : List (Text × Json)} (hnames : xs.map Prod.fst = zs.map Prod.fst) (hsub : zs ⊆ ys) :
    SameMembers xs ys ↔ SameItems (xs.map Prod.snd) (zs.map Prod.snd) := by
  induction xs generalizing zs with
  | nil =>
    cases zs with
    | nil => simp [SameMembers, SameItems]
    | cons m rest => simp at hnames
  | cons m rest ih =>
    cases zs with
    | nil => simp at hnames
    | cons n more =>
      obtain ⟨hname, hrest⟩ := List.cons.inj hnames
      obtain ⟨hhead, htail⟩ := List.cons_subset.mp hsub
      have hfound : ys.lookup m.1 = some n.2 := lookup_eq_some_of_mem hy (by rw [hname]; exact hhead)
      rw [SameMembers, hfound, ih hrest htail]
      simp [SameItems]

/-- Objects built with the same names compare value by value. -/
theorem same_obj_iff {xs ys : List (Text × Json)} (hnames : xs.map Prod.fst = ys.map Prod.fst)
    (hy : (ys.map Prod.fst).Nodup) :
    Same (.obj xs) (.obj ys) ↔ SameItems (xs.map Prod.snd) (ys.map Prod.snd) := by
  have hlen : xs.length = ys.length := by simpa using congrArg List.length hnames
  rw [Same, sameMembers_values hy hnames (List.Subset.refl _)]
  exact and_iff_right hlen

theorem same_comm {v w : Json} (hv : Unique v) (hw : Unique w) : Same v w ↔ Same w v := by
  rw [← sortKeys_eq_iff hv hw, ← sortKeys_eq_iff hw hv, eq_comm]

theorem same_self {v : Json} (h : Unique v) : Same v v := (sortKeys_eq_iff h h).mp rfl

theorem namesAre_iff {found : List (Text × Json)} {names : List String} :
    namesAre found names = true ↔ ∀ name, name ∈ found.map Prod.fst ↔ name ∈ names.map text := by
  simp only [namesAre, Bool.and_eq_true, List.all_eq_true, List.any_eq_true, beq_iff_eq]
  constructor
  · rintro ⟨honly, hall⟩ name
    constructor
    · intro hname
      obtain ⟨m, hm, rfl⟩ := List.mem_map.mp hname
      obtain ⟨n, hn, hmn⟩ := honly m hm
      exact hmn ▸ List.mem_map_of_mem hn
    · intro hname
      obtain ⟨n, hn, rfl⟩ := List.mem_map.mp hname
      obtain ⟨m, hm, hmn⟩ := hall n hn
      exact hmn ▸ List.mem_map_of_mem hm
  · intro h
    constructor
    · intro m hm
      obtain ⟨n, hn, hnm⟩ := List.mem_map.mp ((h m.1).mp (List.mem_map_of_mem hm))
      exact ⟨n, hn, hnm.symm⟩
    · intro n hn
      exact List.mem_map.mp ((h (text n)).mpr (List.mem_map_of_mem hn))

theorem sameMembers_iff {xs ys : List (Text × Json)} :
    SameMembers xs ys ↔ ∀ m ∈ xs, ∃ w, ys.lookup m.1 = some w ∧ Same m.2 w := by
  induction xs with
  | nil => simp [SameMembers]
  | cons m rest ih => simp [SameMembers, ih]

/-- An object of known names is the object its members were read into. -/
theorem same_named {xs found : List (Text × Json)} {names : List String}
    (hnames : namesAre found names = true) (hfound : (found.map Prod.fst).Nodup)
    (hxs : xs.map Prod.fst = names.map text) (hdistinct : (names.map text).Nodup)
    (hmembers : ∀ m ∈ xs, ∃ w, found.lookup m.1 = some w ∧ Same m.2 w) :
    Same (.obj xs) (.obj found) := by
  refine ⟨?_, sameMembers_iff.mpr hmembers⟩
  have hperm : (found.map Prod.fst).Perm (xs.map Prod.fst) := by
    rw [hxs]
    exact (List.perm_ext_iff_of_nodup hfound hdistinct).mpr (namesAre_iff.mp hnames)
  simpa using hperm.length_eq.symm

/-- The same object as one built from known names has these names. -/
theorem namesAre_of_same {xs found : List (Text × Json)} (names : List String)
    (h : Same (.obj xs) (.obj found)) (hxs : xs.map Prod.fst = names.map text)
    (hdistinct : (names.map text).Nodup) :
    namesAre found names = true := by
  have hsub : names.map text ⊆ found.map Prod.fst := by
    intro name hname
    obtain ⟨m, hm, rfl⟩ := List.mem_map.mp (hxs ▸ hname)
    obtain ⟨w, hw, _⟩ := sameMembers_iff.mp h.2 m hm
    exact List.mem_map.mpr ⟨(m.1, w), mem_of_lookup_eq_some hw, rfl⟩
  have hlength : (found.map Prod.fst).length ≤ (names.map text).length := by
    rw [← hxs, List.length_map, List.length_map, h.1]
  have hperm := (List.subperm_of_subset hdistinct hsub).perm_of_length_le hlength
  exact namesAre_iff.mpr fun name => hperm.symm.mem_iff

/-- The same values, each as often, in whatever order. -/
def SameMultiset (xs ys : List Json) : Prop := ∃ zs, zs.Perm ys ∧ SameItems xs zs

theorem sameMultiset_iff {xs ys : List Json} (hx : UniqueItems xs) (hy : UniqueItems ys) :
    SameMultiset xs ys ↔ (xs.map sortKeys).Perm (ys.map sortKeys) := by
  constructor
  · rintro ⟨zs, hperm, hsame⟩
    have hz : UniqueItems zs :=
      uniqueItems_iff.mpr fun v hv => uniqueItems_iff.mp hy v (hperm.mem_iff.mp hv)
    rw [← sortItems_eq, (sortItems_eq_iff hx hz).mpr hsame, sortItems_eq]
    exact hperm.map _
  · intro h
    have split := congrFun (congrFun (List.eq_map_comp_perm sortKeys) (xs.map sortKeys)) ys
    obtain ⟨zs, hmap, hperm⟩ := split.mpr h
    have hz : UniqueItems zs :=
      uniqueItems_iff.mpr fun v hv => uniqueItems_iff.mp hy v (hperm.mem_iff.mp hv)
    refine ⟨zs, hperm, (sortItems_eq_iff hx hz).mp ?_⟩
    rw [sortItems_eq, sortItems_eq]
    exact hmap

/-- The text under a name, the empty text where there is none. -/
def strOf (v : Json) (name : String) : Text := ((v.get? (text name)).bind str?).getD []

theorem strOf_sortKeys {v : Json} (h : Unique v) (name : String) :
    strOf (sortKeys v) name = strOf v name := by
  unfold strOf
  rw [get?_sortKeys h]
  cases v.get? (text name) with
  | none => rfl
  | some w => simp [str?_sortKeys]

section
variable {κ : Type} [LinearOrder κ] {key : Json → κ} (stable : ∀ v, Unique v → key (sortKeys v) = key v)
  {xs ys : List Json} (hx : UniqueItems xs) (hy : UniqueItems ys)
include stable hx

omit [LinearOrder κ] in
theorem keys_sortItems : (xs.map sortKeys).map key = xs.map key := by
  rw [List.map_map]
  exact List.map_congr_left fun v hv => stable v (uniqueItems_iff.mp hx v hv)

theorem sortItems_sortOn : sortItems (sortOn key xs) = sortOn key (xs.map sortKeys) := by
  rw [sortItems_eq]
  exact map_sortOn fun v hv => stable v (uniqueItems_iff.mp hx v hv)

include hy

/-- Lists sorted on a key no two entries share hold the same values in the same places
exactly when the lists hold the same values. -/
theorem sameItems_sortOn_iff (hkeys : (xs.map key).Nodup) :
    SameItems (sortOn key xs) (sortOn key ys) ↔ SameMultiset xs ys := by
  have hx' : UniqueItems (sortOn key xs) :=
    uniqueItems_iff.mpr fun v hv => uniqueItems_iff.mp hx v (mem_sortOn.mp hv)
  have hy' : UniqueItems (sortOn key ys) :=
    uniqueItems_iff.mpr fun v hv => uniqueItems_iff.mp hy v (mem_sortOn.mp hv)
  rw [sameMultiset_iff hx hy, ← sortItems_eq_iff hx' hy', sortItems_sortOn stable hx,
    sortItems_sortOn stable hy]
  exact sortOn_eq_iff (by rwa [keys_sortItems stable hx])

end

theorem SameMultiset.length_eq {xs ys : List Json} (h : SameMultiset xs ys) :
    xs.length = ys.length := by
  obtain ⟨zs, hperm, hitems⟩ := h
  rw [← hperm.length_eq]
  exact (sameItems_iff.mp hitems).length_eq

/-- What does not look at the order of names gives, on the same values, the same results. -/
theorem SameMultiset.map {α : Type} {f : Json → α} {xs ys : List Json} (h : SameMultiset xs ys)
    (stable : ∀ v, Unique v → f (sortKeys v) = f v) (hx : UniqueItems xs) (hy : UniqueItems ys) :
    (xs.map f).Perm (ys.map f) := by
  rw [← keys_sortItems stable hx, ← keys_sortItems stable hy]
  exact ((sameMultiset_iff hx hy).mp h).map f

/-- How the language writes the float it reads from a literal: a text it reads again. -/
structure FloatWriting where
  write : Text → Text
  readable : ∀ literal, FloatText (write literal)

/-- `json.loads(t, object_pairs_hook=unique_object)`, floats kept as they are written again. -/
def loadsUnique (floats : FloatWriting) (t : Text) : Option Json :=
  (loads unique t).map (mapFloats floats.write)

/-- What is read from text without surrogates can be printed and read again. -/
theorem loadsUnique_readable {floats : FloatWriting} {t : Text} {v : Json} (plain : Scalar t)
    (h : loadsUnique floats t = some v) : Readable unique v := by
  obtain ⟨w, hw, rfl⟩ := Option.map_eq_some_iff.mp h
  have kept : Kept unique fun w => Readable unique (mapFloats floats.write w) :=
    { null := trivial
      bool := fun _ => trivial
      int := fun _ => trivial
      float := floats.readable
      str := fun _ noPair => noPair
      arr := fun items parts => by
        rw [mapFloats, mapItems_eq]
        exact readableItems_iff.mpr (List.forall_mem_map.mpr parts)
      obj := fun found v hooked parts => by
        obtain ⟨hnames, rfl⟩ := unique_eq_some.mp hooked
        refine ⟨unique_eq_some.mpr ⟨by simpa using hnames, rfl⟩, ?_⟩
        rw [mapMembers_eq]
        exact readableMembers_iff.mpr (List.forall_mem_map.mpr parts) }
  exact loads_kept kept plain hw

/-! ## Documents without floats -/

mutual
/-- A document without floats that is read as it is printed. -/
def plain : Json → Bool
  | .null | .bool _ | .int _ => true
  | .float _ => false
  | .str s => !hasPair s
  | .arr items => plainItems items
  | .obj found => decide (found.map Prod.fst).Nodup && plainMembers found

def plainItems : List Json → Bool
  | [] => true
  | v :: rest => plain v && plainItems rest

def plainMembers : List (Text × Json) → Bool
  | [] => true
  | (name, v) :: rest => !hasPair name && plain v && plainMembers rest
end

mutual
theorem readable_of_plain : (v : Json) → plain v = true → Readable unique v
  | .null, _ | .bool _, _ | .int _, _ => trivial
  | .float _, h => by simp [plain] at h
  | .str s, h => by simpa [plain, Readable] using h
  | .arr items, h => readableItems_of_plain items h
  | .obj found, h => by
    simp only [plain, Bool.and_eq_true, decide_eq_true_eq] at h
    exact ⟨unique_eq_some.mpr ⟨h.1, rfl⟩, readableMembers_of_plain found h.2⟩

theorem readableItems_of_plain : (items : List Json) → plainItems items = true →
    ReadableItems unique items
  | [], _ => trivial
  | v :: rest, h => by
    simp only [plainItems, Bool.and_eq_true] at h
    exact ⟨readable_of_plain v h.1, readableItems_of_plain rest h.2⟩

theorem readableMembers_of_plain : (found : List (Text × Json)) → plainMembers found = true →
    ReadableMembers unique found
  | [], _ => trivial
  | (name, v) :: rest, h => by
    simp only [plainMembers, Bool.and_eq_true, Bool.not_eq_true'] at h
    exact ⟨h.1.1, readable_of_plain v h.1.2, readableMembers_of_plain rest h.2⟩
end

mutual
theorem mapFloats_of_plain (f : Text → Text) : (v : Json) → plain v = true → mapFloats f v = v
  | .null, _ | .bool _, _ | .int _, _ | .str _, _ => rfl
  | .float _, h => by simp [plain] at h
  | .arr items, h => congrArg Json.arr (mapItems_of_plain f items h)
  | .obj found, h => by
    simp only [plain, Bool.and_eq_true] at h
    exact congrArg Json.obj (mapMembers_of_plain f found h.2)

theorem mapItems_of_plain (f : Text → Text) : (items : List Json) → plainItems items = true →
    mapItems f items = items
  | [], _ => rfl
  | v :: rest, h => by
    simp only [plainItems, Bool.and_eq_true] at h
    rw [mapItems, mapFloats_of_plain f v h.1, mapItems_of_plain f rest h.2]

theorem mapMembers_of_plain (f : Text → Text) : (found : List (Text × Json)) →
    plainMembers found = true → mapMembers f found = found
  | [], _ => rfl
  | (name, v) :: rest, h => by
    simp only [plainMembers, Bool.and_eq_true] at h
    rw [mapMembers, mapFloats_of_plain f v h.1.2, mapMembers_of_plain f rest h.2]
end

mutual
theorem anyFloat_of_plain (p : Text → Bool) : (v : Json) → plain v = true → anyFloat p v = false
  | .null, _ | .bool _, _ | .int _, _ | .str _, _ => rfl
  | .float _, h => by simp [plain] at h
  | .arr items, h => anyFloatItems_of_plain p items h
  | .obj found, h => by
    simp only [plain, Bool.and_eq_true] at h
    exact anyFloatMembers_of_plain p found h.2

theorem anyFloatItems_of_plain (p : Text → Bool) : (items : List Json) →
    plainItems items = true → anyFloatItems p items = false
  | [], _ => rfl
  | v :: rest, h => by
    simp only [plainItems, Bool.and_eq_true] at h
    rw [anyFloatItems, anyFloat_of_plain p v h.1, anyFloatItems_of_plain p rest h.2, Bool.or_false]

theorem anyFloatMembers_of_plain (p : Text → Bool) : (found : List (Text × Json)) →
    plainMembers found = true → anyFloatMembers p found = false
  | [], _ => rfl
  | (name, v) :: rest, h => by
    simp only [plainMembers, Bool.and_eq_true] at h
    rw [anyFloatMembers, anyFloat_of_plain p v h.1.2, anyFloatMembers_of_plain p rest h.2,
      Bool.or_false]
end

/-- A plain document is read from its printed text. -/
theorem loadsUnique_print {floats : FloatWriting} {v : Json} (h : plain v = true) :
    loadsUnique floats (ofAscii (print v)) = some v := by
  rw [loadsUnique, loads_print unique (readable_of_plain v h), Option.map_some,
    mapFloats_of_plain floats.write v h]

theorem scalar_print {v : Json} (h : plain v = true) : Scalar (ofAscii (print v)) := by
  intro c hc
  obtain ⟨b, hb, rfl⟩ := List.mem_map.mp hc
  have hplain := print_plain unique v (readable_of_plain v h) b hb
  exact isScalar_of_range (.inl (by simp only [CodePoint.ofByte]; omega))

theorem nan_floatText : FloatText (text "NaN") where
  plain := by
    have hall : (text "NaN").all (fun c => decide (c.val < 128)) = true := by decide +kernel
    simpa using hall
  visible := ⟨codePoint 78, [codePoint 97, codePoint 78], by decide +kernel⟩
  read rest _ := by
    have hnull : (text "null").isPrefixOf (text "NaN" ++ rest) = false := rfl
    have htrue : (text "true").isPrefixOf (text "NaN" ++ rest) = false := rfl
    have hfalse : (text "false").isPrefixOf (text "NaN" ++ rest) = false := rfl
    have hnan : (text "NaN").isPrefixOf (text "NaN" ++ rest) = true :=
      List.isPrefixOf_iff_prefix.mpr (List.prefix_append _ _)
    simp only [atom, constants, List.find?_cons, hnull, htrue, hfalse, hnan, List.drop_left]

/-- One text for every float: enough where a document holds none. -/
def nanWriting : FloatWriting := ⟨fun _ => text "NaN", fun _ => nan_floatText⟩

end KonnectFapi.Lib.Json

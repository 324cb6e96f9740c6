import KonnectFapi.Lib.JsonCanonical

/-!
# Comparing documents and writing members

`==` of a dynamic language on documents: members in any order, a truth value equal to the
number it stands for. Only a number that is none differs from itself. Writing a member
keeps its place in the dictionary; a new one goes to the end.
-/

namespace KonnectFapi.Lib.Json

abbrev Dict := List (Text × Json)

/-- When a float equals a float, and when it equals an integer, by their literals. -/
structure FloatEquality where
  same : Text → Text → Bool
  sameInt : Text → Int → Bool

section
variable (floats : FloatEquality)

def equalInt (n : Int) : Json → Bool
  | .int m => m == n
  | .bool b => n == if b then 1 else 0
  | .float literal => floats.sameInt literal n
  | _ => false

def equalFloat (literal : Text) : Json → Bool
  | .float other => floats.same literal other
  | .int n => floats.sameInt literal n
  | .bool b => floats.sameInt literal (if b then 1 else 0)
  | _ => false

mutual
/-- `v == w`. -/
def equal : Json → Json → Bool
  | .null, w => (w matches .null)
  | .bool b, w => equalInt floats (if b then 1 else 0) w
  | .int n, w => equalInt floats n w
  | .float literal, w => equalFloat floats literal w
  | .str s, w => w.str? == some s
  | .arr xs, .arr ys => equalItems xs ys
  | .arr _, _ => false
  | .obj xs, .obj ys => xs.length == ys.length && equalMembers xs ys
  | .obj _, _ => false

def equalItems : List Json → List Json → Bool
  | [], [] => true
  | v :: xs, w :: ys => equal v w && equalItems xs ys
  | _, _ => false

/-- Every member is found, with an equal value, among the other ones. -/
def equalMembers : Dict → Dict → Bool
  | [], _ => true
  | (name, v) :: rest, ys =>
    (match ys.lookup name with
      | some w => equal v w
      | none => false) && equalMembers rest ys
end

mutual
/-- No name stands twice in an object, and every float is a number. -/
def Comparable : Json → Prop
  | .float literal => floats.same literal literal = true
  | .arr items => ComparableItems items
  | .obj found => (found.map Prod.fst).Nodup ∧ ComparableMembers found
  | _ => True

def ComparableItems : List Json → Prop
  | [] => True
  | v :: rest => Comparable v ∧ ComparableItems rest

def ComparableMembers : Dict → Prop
  | [] => True
  | (_, v) :: rest => Comparable v ∧ ComparableMembers rest
end

mutual
def decideComparable : (v : Json) → Decidable (Comparable floats v)
  | .null => .isTrue trivial
  | .bool _ => .isTrue trivial
  | .int _ => .isTrue trivial
  | .str _ => .isTrue trivial
  | .float literal => inferInstanceAs (Decidable (floats.same literal literal = true))
  | .arr items => decideItems items
  | .obj found => @instDecidableAnd _ _ inferInstance (decideMembers found)

def decideItems : (items : List Json) → Decidable (ComparableItems floats items)
  | [] => .isTrue trivial
  | v :: rest => @instDecidableAnd _ _ (decideComparable v) (decideItems rest)

def decideMembers : (found : Dict) → Decidable (ComparableMembers floats found)
  | [] => .isTrue trivial
  | (_, v) :: rest => @instDecidableAnd _ _ (decideComparable v) (decideMembers rest)
end

instance decidableComparable (v : Json) : Decidable (Comparable floats v) := decideComparable floats v

end

section
variable {floats : FloatEquality}

theorem comparableItems_iff {items : List Json} :
    ComparableItems floats items ↔ ∀ v ∈ items, Comparable floats v := by
  induction items with
  | nil => simp [ComparableItems]
  | cons v rest ih => simp [ComparableItems, ih]

theorem comparableMembers_iff {found : Dict} :
    ComparableMembers floats found ↔ ∀ m ∈ found, Comparable floats m.2 := by
  induction found with
  | nil => simp [ComparableMembers]
  | cons m rest ih => simp [ComparableMembers, ih]

theorem comparable_obj {found : Dict} : Comparable floats (.obj found) ↔
    (found.map Prod.fst).Nodup ∧ ∀ m ∈ found, Comparable floats m.2 := by
  rw [Comparable, comparableMembers_iff]

theorem Comparable.member {found : Dict} (h : Comparable floats (.obj found)) {name : Text}
    {v : Json} (hv : found.lookup name = some v) : Comparable floats v :=
  (comparable_obj.mp h).2 _ (mem_of_lookup_eq_some hv)

mutual
/-- A comparable document equals itself. -/
theorem equal_self : (v : Json) → Comparable floats v → equal floats v v = true
  | .null, _ => rfl
  | .bool b, _ => by simp [equal, equalInt]
  | .int n, _ => by simp [equal, equalInt]
  | .float _, h => h
  | .str s, _ => by simp [equal, str?]
  | .arr items, h => equalItems_self items h
  | .obj found, h => by
    have inside : ∀ m ∈ found, found.lookup m.1 = some m.2 := fun m hm =>
      lookup_eq_some_of_mem h.1 hm
    rw [equal, beq_self_eq_true, Bool.true_and]
    exact equalMembers_self found found h.2 inside

theorem equalItems_self : (items : List Json) → ComparableItems floats items →
    equalItems floats items items = true
  | [], _ => rfl
  | v :: rest, h => by rw [equalItems, equal_self v h.1, equalItems_self rest h.2, Bool.and_self]

theorem equalMembers_self : (xs ys : Dict) → ComparableMembers floats xs →
    (∀ m ∈ xs, ys.lookup m.1 = some m.2) → equalMembers floats xs ys = true
  | [], _, _, _ => rfl
  | (name, v) :: rest, ys, h, inside => by
    obtain ⟨head, tail⟩ := List.forall_mem_cons.mp inside
    simp only at head
    rw [equalMembers, head]
    dsimp only
    rw [equal_self v h.1, equalMembers_self rest ys h.2 tail, Bool.and_self]
end

end

/-! ## Writing members -/

section
variable {α : Type}

/-- `found[name] = v`. -/
def put (found : List (Text × α)) (name : Text) (v : α) : List (Text × α) :=
  if (found.lookup name).isSome then found.map fun m => (m.1, if m.1 = name then v else m.2)
  else found ++ [(name, v)]

/-- `{**found, **others}`. -/
def amend (found others : List (Text × α)) : List (Text × α) :=
  others.foldl (fun d m => put d m.1 m.2) found

theorem lookup_append {xs ys : List (Text × α)} {name : Text} :
    (xs ++ ys).lookup name = (xs.lookup name).or (ys.lookup name) := by
  induction xs with
  | nil => rfl
  | cons m rest ih =>
    rw [List.cons_append, List.lookup_cons, List.lookup_cons, ih]
    cases name == m.1 <;> rfl

theorem lookup_replaced (found : List (Text × α)) (name name' : Text) (v : α) :
    (found.map fun m => (m.1, if m.1 = name then v else m.2)).lookup name' =
      (found.lookup name').map fun w => if name' = name then v else w := by
  induction found with
  | nil => rfl
  | cons m rest ih =>
    rw [List.map_cons, List.lookup_cons, List.lookup_cons, ih]
    by_cases h : name' = m.1
    · subst h
      simp
    · rw [beq_eq_false_iff_ne.mpr h]

theorem lookup_put (found : List (Text × α)) (name name' : Text) (v : α) :
    (put found name v).lookup name' = if name' = name then some v else found.lookup name' := by
  unfold put
  split
  · rename_i present
    rw [lookup_replaced]
    by_cases h : name' = name
    · subst h
      obtain ⟨w, hw⟩ := Option.isSome_iff_exists.mp present
      simp [hw]
    · simp [h]
  · rename_i absent
    rw [Bool.not_eq_true, Option.isSome_eq_false_iff, Option.isNone_iff_eq_none] at absent
    rw [lookup_append]
    by_cases h : name' = name
    · subst h
      simp [absent]
    · rw [List.lookup_cons, beq_eq_false_iff_ne.mpr h, List.lookup_nil, Option.or_none, if_neg h]

theorem mem_names_iff {found : List (Text × α)} {name : Text} :
    name ∈ found.map Prod.fst ↔ (found.lookup name).isSome := by
  induction found with
  | nil => simp [List.lookup_nil]
  | cons m rest ih =>
    rw [List.map_cons, List.mem_cons, List.lookup_cons, ih]
    by_cases h : name = m.1
    · subst h
      simp
    · rw [beq_eq_false_iff_ne.mpr h]
      simp [h]

theorem nodup_put {found : List (Text × α)} (h : (found.map Prod.fst).Nodup) (name : Text) (v : α) :
    ((put found name v).map Prod.fst).Nodup := by
  unfold put
  split
  · rw [List.map_map]
    exact h
  · rename_i absent
    rw [List.map_append, List.map_cons, List.map_nil]
    refine List.nodup_append'.mpr ⟨h, List.nodup_singleton _, List.disjoint_singleton.mpr ?_⟩
    exact fun hmem => absent (mem_names_iff.mp hmem)

theorem nodup_amend (others : List (Text × α)) : ∀ {found : List (Text × α)}, (found.map Prod.fst).Nodup →
    ((amend found others).map Prod.fst).Nodup := by
  induction others with
  | nil => exact fun h => h
  | cons m rest ih => exact fun h => ih (nodup_put h m.1 m.2)

/-- What was written last under a name is found there; other names keep what they had. -/
theorem lookup_amend {others : List (Text × α)} (h : (others.map Prod.fst).Nodup)
    (found : List (Text × α)) (name : Text) :
    (amend found others).lookup name = (others.lookup name).or (found.lookup name) := by
  induction others generalizing found with
  | nil => rfl
  | cons m rest ih =>
    obtain ⟨fresh, hrest⟩ := List.nodup_cons.mp h
    rw [amend, List.foldl_cons]
    show (amend (put found m.1 m.2) rest).lookup name = _
    rw [ih hrest, lookup_put, List.lookup_cons]
    by_cases hname : name = m.1
    · subst hname
      have absent : rest.lookup m.1 = none := by
        rw [← Option.isNone_iff_eq_none, ← Option.isSome_eq_false_iff, ← Bool.not_eq_true]
        exact fun hsome => fresh (mem_names_iff.mpr hsome)
      rw [absent, if_pos rfl, beq_self_eq_true]
      rfl
    · rw [if_neg hname, beq_eq_false_iff_ne.mpr hname]

end

/-- `{name: found.get(name) for name in names}`. -/
def project (names : List Text) (found : Dict) : Dict :=
  names.map fun name => (name, (found.lookup name).getD .null)

theorem nodup_dict (found : Dict) : ((dict found).map Prod.fst).Nodup :=
  nodup_amend found (List.nodup_nil : ((([] : Dict).map Prod.fst).Nodup))

theorem put_cons_of_ne {m : Text × Json} {name : Text} (h : m.1 ≠ name) (rest : Dict) (v : Json) :
    put (m :: rest) name v = m :: put rest name v := by
  have hlookup : List.lookup name (m :: rest) = rest.lookup name := by
    rw [List.lookup_cons, beq_eq_false_iff_ne.mpr h.symm]
  rw [put, put, hlookup, List.map_cons, if_neg h]
  split <;> rfl

theorem names_put {found : Dict} {name : Text} (h : name ∈ found.map Prod.fst) (v : Json) :
    (put found name v).map Prod.fst = found.map Prod.fst := by
  rw [put, if_pos (mem_names_iff.mp h), List.map_map]
  rfl

/-- Writing what is there already changes nothing. -/
theorem put_eq_self {found : Dict} (h : (found.map Prod.fst).Nodup) {name : Text} {v : Json}
    (hv : found.lookup name = some v) : put found name v = found := by
  rw [put, hv, Option.isSome_some, if_pos rfl]
  refine (List.map_congr_left fun m hm => ?_).trans (List.map_id _)
  by_cases hname : m.1 = name
  · have heq : m.2 = v := by
      have hm' := lookup_eq_some_of_mem h hm
      rw [hname, hv] at hm'
      exact (Option.some.inj hm').symm
    rw [if_pos hname, ← heq]
    rfl
  · rw [if_neg hname]
    rfl

theorem amend_eq_self {found : Dict} (h : (found.map Prod.fst).Nodup) {others : Dict}
    (inside : ∀ m ∈ others, found.lookup m.1 = some m.2) : amend found others = found := by
  induction others with
  | nil => rfl
  | cons m rest ih =>
    obtain ⟨head, tail⟩ := List.forall_mem_cons.mp inside
    rw [amend, List.foldl_cons, put_eq_self h head]
    exact ih tail

/-- Amending twice is amending once. -/
theorem amend_amend {found others : Dict} (hfound : (found.map Prod.fst).Nodup)
    (hothers : (others.map Prod.fst).Nodup) :
    amend (amend found others) others = amend found others := by
  refine amend_eq_self (nodup_amend others hfound) fun m hm => ?_
  rw [lookup_amend hothers, lookup_eq_some_of_mem hothers hm]
  rfl

theorem forall_mem_put {P : Json → Prop} {found : Dict} (h : ∀ m ∈ found, P m.2) (name : Text)
    {v : Json} (hv : P v) : ∀ m ∈ put found name v, P m.2 := by
  intro m hm
  unfold put at hm
  split at hm
  · obtain ⟨other, hother, rfl⟩ := List.mem_map.mp hm
    dsimp only
    split
    · exact hv
    · exact h other hother
  · rcases List.mem_append.mp hm with hm | hm
    · exact h m hm
    · rw [List.mem_singleton.mp hm]
      exact hv

theorem forall_mem_amend {P : Json → Prop} {found others : Dict} (h : ∀ m ∈ found, P m.2)
    (hothers : ∀ m ∈ others, P m.2) : ∀ m ∈ amend found others, P m.2 := by
  induction others generalizing found with
  | nil => exact h
  | cons m rest ih =>
    obtain ⟨head, tail⟩ := List.forall_mem_cons.mp hothers
    exact ih (forall_mem_put h m.1 head) tail

theorem comparable_put {floats : FloatEquality} {found : Dict}
    (h : Comparable floats (.obj found)) (name : Text) {v : Json} (hv : Comparable floats v) :
    Comparable floats (.obj (put found name v)) := by
  obtain ⟨hnames, hmembers⟩ := comparable_obj.mp h
  exact comparable_obj.mpr ⟨nodup_put hnames name v, forall_mem_put hmembers name hv⟩

theorem comparable_amend {floats : FloatEquality} {found others : Dict}
    (h : Comparable floats (.obj found)) (hothers : Comparable floats (.obj others)) :
    Comparable floats (.obj (amend found others)) := by
  obtain ⟨hnames, hmembers⟩ := comparable_obj.mp h
  exact comparable_obj.mpr ⟨nodup_amend others hnames,
    forall_mem_amend hmembers (comparable_obj.mp hothers).2⟩

theorem lookup_project {names : List Text} {name : Text} (h : name ∈ names) (found : Dict) :
    (project names found).lookup name = some ((found.lookup name).getD .null) := by
  induction names with
  | nil => cases h
  | cons n rest ih =>
    rw [project, List.map_cons, List.lookup_cons]
    by_cases hn : name = n
    · subst hn
      simp
    · rw [beq_eq_false_iff_ne.mpr hn]
      exact ih ((List.mem_cons.mp h).resolve_left hn)

@[simp] theorem names_project (names : List Text) (found : Dict) :
    (project names found).map Prod.fst = names := by
  simp [project, Function.comp_def]

theorem project_congr {names : List Text} {xs ys : Dict}
    (h : ∀ name ∈ names, xs.lookup name = ys.lookup name) : project names xs = project names ys :=
  List.map_congr_left fun name hname => by rw [h name hname]

theorem project_project {names : List Text} (found : Dict) :
    project names (project names found) = project names found :=
  List.map_congr_left fun name hname => by rw [lookup_project hname, Option.getD_some]

theorem put_project {names : List Text} {name : Text} (h : name ∈ names) (found : Dict)
    (v : Json) : put (project names found) name v = project names (put found name v) := by
  rw [put, lookup_project h, Option.isSome_some, if_pos rfl, project, project, List.map_map]
  refine List.map_congr_left fun n _ => ?_
  simp only [Function.comp_apply, lookup_put]
  split <;> rfl

/-- Among the names that are written, what is read is what was written. -/
theorem project_amend {names : List Text} {others : Dict} (hothers : others.map Prod.fst = names)
    (hnames : names.Nodup) (found : Dict) :
    project names (amend found others) = project names others := by
  refine project_congr fun name hname => ?_
  rw [lookup_amend (hothers ▸ hnames)]
  rw [← hothers, mem_names_iff] at hname
  obtain ⟨v, hv⟩ := Option.isSome_iff_exists.mp hname
  rw [hv, Option.some_or]

theorem comparable_project {floats : FloatEquality} {names : List Text} (hnames : names.Nodup)
    {found : Dict} (h : Comparable floats (.obj found)) :
    Comparable floats (.obj (project names found)) := by
  refine comparable_obj.mpr ⟨by rwa [names_project], fun m hm => ?_⟩
  obtain ⟨name, -, rfl⟩ := List.mem_map.mp hm
  cases hv : found.lookup name with
  | none => exact trivial
  | some v => exact h.member hv

end KonnectFapi.Lib.Json

import KonnectFapi.Lib.Text
import Mathlib.Data.List.Perm.Subperm
import Mathlib.Data.Rat.Defs

/-!
# YAML values and their equality

The values a safe YAML loader builds, and the equality of the language it builds them
in: a truth value is a number, a float is the number it stands for, the order of a
mapping's keys does not count, and not-a-number equals nothing. The equality is a
partial equivalence on values whose mappings repeat no key.
-/

namespace KonnectFapi.Lib

inductive Scalar where
  | null
  | bool (b : Bool)
  | int (n : Int)
  | float (x : Rat)
  | infinity (negative : Bool)
  | nan
  | str (s : Text)
  /-- A time stamp or a byte string, by its kind and canonical spelling. -/
  | other (kind spelling : Text)
  deriving DecidableEq

namespace Scalar

/-- What a comparison sees of a scalar. -/
inductive Content where
  | null
  | number (x : Rat)
  | infinity (negative : Bool)
  | str (s : Text)
  | other (kind spelling : Text)
  deriving DecidableEq

def content : Scalar → Option Content
  | .null => some .null
  | .bool b => some (.number (if b then 1 else 0))
  | .int n => some (.number n)
  | .float x => some (.number x)
  | .infinity negative => some (.infinity negative)
  | .nan => none
  | .str s => some (.str s)
  | .other kind spelling => some (.other kind spelling)

/-- `a == b`. -/
def same (a b : Scalar) : Bool :=
  match a.content, b.content with
  | some x, some y => x = y
  | _, _ => false

theorem same_iff {a b : Scalar} :
    a.same b = true ↔ ∃ c, a.content = some c ∧ b.content = some c := by
  unfold same
  cases a.content <;> cases b.content <;> simp [eq_comm]

theorem same_symm {a b : Scalar} (h : a.same b = true) : b.same a = true := by
  obtain ⟨c, ha, hb⟩ := same_iff.mp h
  exact same_iff.mpr ⟨c, hb, ha⟩

theorem same_trans {a b c : Scalar} (hab : a.same b = true) (hbc : b.same c = true) :
    a.same c = true := by
  obtain ⟨x, ha, hb⟩ := same_iff.mp hab
  obtain ⟨y, hb', hc⟩ := same_iff.mp hbc
  rw [hb] at hb'
  cases hb'
  exact same_iff.mpr ⟨x, ha, hc⟩

theorem same_comm (a b : Scalar) : a.same b = b.same a := by
  rw [Bool.eq_iff_iff]
  exact ⟨same_symm, same_symm⟩

theorem same_congr {a b : Scalar} (h : a.same b = true) (c : Scalar) : c.same a = c.same b := by
  rw [Bool.eq_iff_iff]
  exact ⟨fun hca => same_trans hca h, fun hcb => same_trans hcb (same_symm h)⟩

@[simp] theorem str_same (s t : Text) : (str s).same (str t) = decide (s = t) := by
  simp [same, content]

end Scalar

inductive Yaml where
  | scalar (s : Scalar)
  | list (items : List Yaml)
  | dict (entries : List (Scalar × Yaml))

namespace Yaml

abbrev Entries := List (Scalar × Yaml)

/-- The value stored under a key. -/
def lookup (key : Scalar) : Entries → Option Yaml
  | [] => none
  | (k, v) :: rest => if k.same key then some v else lookup key rest

mutual
/-- `a == b`. -/
def same : Yaml → Yaml → Bool
  | .scalar a, .scalar b => a.same b
  | .list xs, .list ys => sameItems xs ys
  | .dict xs, .dict ys => xs.length == ys.length && sameEntries xs ys
  | _, _ => false

def sameItems : List Yaml → List Yaml → Bool
  | [], [] => true
  | x :: xs, y :: ys => same x y && sameItems xs ys
  | _, _ => false

/-- Every entry is found, with an equal value, among the other ones. -/
def sameEntries : List (Scalar × Yaml) → List (Scalar × Yaml) → Bool
  | [], _ => true
  | (k, v) :: rest, ys =>
    (match lookup k ys with
      | some w => same v w
      | none => false) && sameEntries rest ys
end

def null : Yaml := .scalar .null

def str (s : String) : Yaml := .scalar (.str (text s))

def strs (items : List String) : Yaml := .list (items.map str)

def bool (b : Bool) : Yaml := .scalar (.bool b)

def int (n : Int) : Yaml := .scalar (.int n)

/-- The entries of a mapping with text keys. -/
def entries (members : List (String × Yaml)) : Entries :=
  members.map fun (name, v) => (.str (text name), v)

def obj (members : List (String × Yaml)) : Yaml := .dict (entries members)

/-- `mapping.get(name)`: the null value when the key is missing. -/
def get (mapping : Entries) (name : String) : Yaml :=
  (lookup (.str (text name)) mapping).getD null

/-- `set(mapping) == {names}`. -/
def keysAre (mapping : Entries) (names : List String) : Bool :=
  mapping.all (fun e => names.any fun name => e.1.same (.str (text name))) &&
    names.all fun name => (lookup (.str (text name)) mapping).isSome

/-- `all(mapping.get(name) == value for name, value in expected.items())`. -/
def agrees (mapping : Entries) (expected : List (String × Yaml)) : Bool :=
  expected.all fun e => same (get mapping e.1) e.2

/-- No key stands twice. -/
def DistinctKeys (entries : Entries) : Prop := entries.Pairwise fun a b => a.1.same b.1 = false

mutual
/-- No mapping in the value repeats a key. -/
def Loaded : Yaml → Prop
  | .scalar _ => True
  | .list items => LoadedItems items
  | .dict entries => DistinctKeys entries ∧ LoadedEntries entries

def LoadedItems : List Yaml → Prop
  | [] => True
  | v :: rest => v.Loaded ∧ LoadedItems rest

def LoadedEntries : List (Scalar × Yaml) → Prop
  | [] => True
  | (_, v) :: rest => v.Loaded ∧ LoadedEntries rest
end

instance (entries : Entries) : Decidable (DistinctKeys entries) :=
  inferInstanceAs (Decidable (List.Pairwise _ entries))

mutual
def loadedDecidable : (v : Yaml) → Decidable v.Loaded
  | .scalar _ => isTrue trivial
  | .list items => loadedItemsDecidable items
  | .dict entries => @instDecidableAnd _ _ inferInstance (loadedEntriesDecidable entries)

def loadedItemsDecidable : (items : List Yaml) → Decidable (LoadedItems items)
  | [] => isTrue trivial
  | v :: rest => @instDecidableAnd _ _ (loadedDecidable v) (loadedItemsDecidable rest)

def loadedEntriesDecidable : (entries : List (Scalar × Yaml)) → Decidable (LoadedEntries entries)
  | [] => isTrue trivial
  | (_, v) :: rest => @instDecidableAnd _ _ (loadedDecidable v) (loadedEntriesDecidable rest)
end

instance (v : Yaml) : Decidable v.Loaded := loadedDecidable v

instance (entries : Entries) : Decidable (LoadedEntries entries) := loadedEntriesDecidable entries

theorem loadedItems_iff {items : List Yaml} : LoadedItems items ↔ ∀ v ∈ items, v.Loaded := by
  induction items with
  | nil => simp [LoadedItems]
  | cons v rest ih => simp [LoadedItems, ih]

theorem loadedEntries_iff {entries : Entries} :
    LoadedEntries entries ↔ ∀ e ∈ entries, e.2.Loaded := by
  induction entries with
  | nil => simp [LoadedEntries]
  | cons e rest ih => simp [LoadedEntries, ih]

/-! ## Looking up -/

theorem mem_of_lookup {key : Scalar} {entries : Entries} {v : Yaml}
    (h : lookup key entries = some v) : ∃ k, (k, v) ∈ entries ∧ k.same key = true := by
  induction entries with
  | nil => cases h
  | cons e rest ih =>
    unfold lookup at h
    split at h
    · rename_i hk
      cases h
      exact ⟨e.1, by simp, hk⟩
    · obtain ⟨k, hmem, hk⟩ := ih h
      exact ⟨k, by simp [hmem], hk⟩

theorem lookup_congr {a b : Scalar} (h : a.same b = true) (entries : Entries) :
    lookup a entries = lookup b entries := by
  induction entries with
  | nil => rfl
  | cons e rest ih => simp only [lookup, Scalar.same_congr h, ih]

theorem lookup_of_mem {entries : Entries} (hkeys : DistinctKeys entries) {k key : Scalar} {v : Yaml}
    (hmem : (k, v) ∈ entries) (hk : k.same key = true) : lookup key entries = some v := by
  induction entries with
  | nil => cases hmem
  | cons e rest ih =>
    obtain ⟨hhead, hrest⟩ := List.pairwise_cons.mp hkeys
    unfold lookup
    rcases List.mem_cons.mp hmem with rfl | hin
    · rw [if_pos hk]
    · have hne : e.1.same key = false := by
        rw [← Scalar.same_congr hk]
        exact hhead _ hin
      rw [if_neg (by simp [hne])]
      exact ih hrest hin

theorem loaded_of_lookup {entries : Entries} (h : LoadedEntries entries) {key : Scalar} {v : Yaml}
    (hv : lookup key entries = some v) : v.Loaded := by
  obtain ⟨k, hmem, _⟩ := mem_of_lookup hv
  exact loadedEntries_iff.mp h _ hmem

/-! ## The equality of entries -/

theorem sameEntries_iff {xs ys : Entries} :
    sameEntries xs ys = true ↔ ∀ e ∈ xs, ∃ w, lookup e.1 ys = some w ∧ e.2.same w = true := by
  induction xs with
  | nil => simp [sameEntries]
  | cons e rest ih =>
    obtain ⟨k, v⟩ := e
    rw [sameEntries, Bool.and_eq_true, ih]
    cases hfound : lookup k ys with
    | none => simp [hfound]
    | some w => simp [hfound]

theorem same_dict_iff {xs ys : Entries} :
    same (.dict xs) (.dict ys) = true ↔ xs.length = ys.length ∧ sameEntries xs ys = true := by
  simp [same]

/-- What comparisons see of the keys. -/
def contents (entries : Entries) : List (Option Scalar.Content) := entries.map (·.1.content)

theorem content_of_lookup {xs ys : Entries} (h : ∀ e ∈ xs, (lookup e.1 ys).isSome = true)
    {e : Scalar × Yaml} (he : e ∈ xs) :
    ∃ c, e.1.content = some c ∧ some c ∈ contents ys := by
  obtain ⟨w, hw⟩ := Option.isSome_iff_exists.mp (h e he)
  obtain ⟨k, hmem, hk⟩ := mem_of_lookup hw
  obtain ⟨c, hkc, hec⟩ := Scalar.same_iff.mp hk
  exact ⟨c, hec, List.mem_map.mpr ⟨_, hmem, hkc⟩⟩

theorem nodup_contents {entries : Entries} (h : DistinctKeys entries)
    (hsome : ∀ e ∈ entries, ∃ c, e.1.content = some c) : (contents entries).Nodup := by
  refine List.pairwise_map.mpr (h.imp_of_mem fun {a b} ha _ hab heq => ?_)
  obtain ⟨c, hc⟩ := hsome a ha
  have hsame : a.1.same b.1 = true := Scalar.same_iff.mpr ⟨c, hc, heq ▸ hc⟩
  simp [hab] at hsame

theorem lookup_isSome_of_content {xs : Entries} {key : Scalar} {c : Scalar.Content}
    (hkey : key.content = some c) (hc : some c ∈ contents xs) : (lookup key xs).isSome = true := by
  induction xs with
  | nil => cases hc
  | cons e rest ih =>
    unfold lookup
    split
    · rfl
    · rename_i hne
      rcases List.mem_cons.mp hc with hhead | hrest
      · exact absurd (Scalar.same_iff.mpr ⟨c, hhead.symm, hkey⟩) hne
      · exact ih hrest

theorem contents_subperm {xs ys : Entries} (hxs : DistinctKeys xs)
    (h : ∀ e ∈ xs, (lookup e.1 ys).isSome = true) : (contents xs).Subperm (contents ys) := by
  have hnodup : (contents xs).Nodup :=
    nodup_contents hxs fun e he => (content_of_lookup h he).imp fun _ hc => hc.1
  refine List.subperm_of_subset hnodup fun c hc => ?_
  obtain ⟨e, he, rfl⟩ := List.mem_map.mp hc
  obtain ⟨c, hec, hmem⟩ := content_of_lookup h he
  exact hec ▸ hmem

/-- Among mappings of one size, finding every key one way is finding every key the other way. -/
theorem found_back {xs ys : Entries} (hxs : DistinctKeys xs) (hlen : xs.length = ys.length)
    (h : ∀ e ∈ xs, (lookup e.1 ys).isSome = true) : ∀ e ∈ ys, (lookup e.1 xs).isSome = true := by
  have hperm : (contents xs).Perm (contents ys) :=
    (contents_subperm hxs h).perm_of_length_le (by simp [contents, hlen])
  intro e he
  have hmem : e.1.content ∈ contents xs := hperm.mem_iff.mpr (List.mem_map_of_mem he)
  obtain ⟨f, hf, hfe⟩ := List.mem_map.mp hmem
  obtain ⟨c, hfc, _⟩ := content_of_lookup h hf
  have hec : e.1.content = some c := hfe ▸ hfc
  exact lookup_isSome_of_content hec (hec ▸ hmem)

theorem found_of_same {xs ys : Entries} (h : sameEntries xs ys = true) :
    ∀ e ∈ xs, (lookup e.1 ys).isSome = true := by
  intro e he
  obtain ⟨w, hw, _⟩ := sameEntries_iff.mp h e he
  simp [hw]

/-- Two mappings without repeated keys whose keys are found both ways have one size. -/
theorem length_eq_of_found {xs ys : Entries} (hxs : DistinctKeys xs) (hys : DistinctKeys ys)
    (h : ∀ e ∈ xs, (lookup e.1 ys).isSome = true) (h' : ∀ e ∈ ys, (lookup e.1 xs).isSome = true) :
    xs.length = ys.length := by
  refine Nat.le_antisymm ?_ ?_
  · simpa [contents] using (contents_subperm hxs h).length_le
  · simpa [contents] using (contents_subperm hys h').length_le

/-! ## A partial equivalence -/

mutual
theorem same_symm : {a b : Yaml} → a.Loaded → b.Loaded → same a b = true → same b a = true
  | .scalar _, .scalar _, _, _, h => Scalar.same_symm h
  | .list _, .list _, ha, hb, h => sameItems_symm ha hb h
  | .dict xs, .dict ys, ha, hb, h => by
    obtain ⟨hlen, hxy⟩ := same_dict_iff.mp h
    refine same_dict_iff.mpr ⟨hlen.symm, sameEntries_iff.mpr fun e he => ?_⟩
    obtain ⟨v, hv⟩ := Option.isSome_iff_exists.mp (found_back ha.1 hlen (found_of_same hxy) e he)
    obtain ⟨k, hmem, hk⟩ := mem_of_lookup hv
    obtain ⟨w, hw, hvw⟩ := sameEntries_symm ha.2 hb.2 hxy _ hmem
    rw [lookup_of_mem hb.1 he (Scalar.same_symm hk)] at hw
    cases hw
    exact ⟨v, hv, hvw⟩

theorem sameItems_symm : {xs ys : List Yaml} → LoadedItems xs → LoadedItems ys →
    sameItems xs ys = true → sameItems ys xs = true
  | [], [], _, _, _ => rfl
  | _ :: _, _ :: _, hx, hy, h => by
    obtain ⟨hhead, htail⟩ := Bool.and_eq_true_iff.mp h
    exact Bool.and_eq_true_iff.mpr
      ⟨same_symm hx.1 hy.1 hhead, sameItems_symm hx.2 hy.2 htail⟩

theorem sameEntries_symm : {xs ys : List (Scalar × Yaml)} → LoadedEntries xs → LoadedEntries ys →
    sameEntries xs ys = true →
    ∀ e ∈ xs, ∃ w, lookup e.1 ys = some w ∧ same w e.2 = true
  | [], _, _, _, _ => by simp
  | (k, v) :: rest, ys, hx, hy, h => by
    obtain ⟨hhead, htail⟩ := Bool.and_eq_true_iff.mp h
    intro e he
    rcases List.mem_cons.mp he with rfl | hrest
    · obtain ⟨w, hw, hvw⟩ := sameEntries_iff.mp h _ List.mem_cons_self
      exact ⟨w, hw, same_symm hx.1 (loaded_of_lookup hy hw) hvw⟩
    · exact sameEntries_symm hx.2 hy htail e hrest
end

mutual
theorem same_trans : {a b c : Yaml} → same a b = true → same b c = true → same a c = true
  | .scalar _, .scalar _, .scalar _, hab, hbc => Scalar.same_trans hab hbc
  | .list _, .list _, .list _, hab, hbc => sameItems_trans hab hbc
  | .dict _, .dict _, .dict _, hab, hbc => by
    obtain ⟨hxy, hab⟩ := same_dict_iff.mp hab
    obtain ⟨hyz, hbc⟩ := same_dict_iff.mp hbc
    exact same_dict_iff.mpr ⟨hxy.trans hyz, sameEntries_trans hab hbc⟩

theorem sameItems_trans : {xs ys zs : List Yaml} → sameItems xs ys = true →
    sameItems ys zs = true → sameItems xs zs = true
  | [], [], [], _, _ => rfl
  | _ :: _, _ :: _, _ :: _, hxy, hyz => by
    obtain ⟨hx, hxs⟩ := Bool.and_eq_true_iff.mp hxy
    obtain ⟨hy, hys⟩ := Bool.and_eq_true_iff.mp hyz
    exact Bool.and_eq_true_iff.mpr ⟨same_trans hx hy, sameItems_trans hxs hys⟩

theorem sameEntries_trans : {xs ys zs : List (Scalar × Yaml)} → sameEntries xs ys = true →
    sameEntries ys zs = true → sameEntries xs zs = true
  | [], _, _, _, _ => rfl
  | (k, v) :: rest, ys, zs, hxy, hyz => by
    obtain ⟨w, hw, hvw⟩ := sameEntries_iff.mp hxy _ List.mem_cons_self
    obtain ⟨k', hmem, hk⟩ := mem_of_lookup hw
    obtain ⟨u, hu, hwu⟩ := sameEntries_iff.mp hyz _ hmem
    rw [lookup_congr hk] at hu
    have hrest := sameEntries_trans (Bool.and_eq_true_iff.mp hxy).2 hyz
    rw [sameEntries, hu, hrest, Bool.and_true]
    exact same_trans hvw hwu
end

mutual
/-- Not-a-number stands nowhere in the value. -/
def plain : Yaml → Bool
  | .scalar s => s.content.isSome
  | .list items => plainItems items
  | .dict entries => plainEntries entries

def plainItems : List Yaml → Bool
  | [] => true
  | v :: rest => v.plain && plainItems rest

def plainEntries : List (Scalar × Yaml) → Bool
  | [] => true
  | (k, v) :: rest => k.content.isSome && v.plain && plainEntries rest
end

theorem plainEntries_key {entries : Entries} (h : plainEntries entries = true)
    {e : Scalar × Yaml} (he : e ∈ entries) : e.1.same e.1 = true := by
  induction entries with
  | nil => cases he
  | cons f rest ih =>
    simp only [plainEntries, Bool.and_eq_true] at h
    rcases List.mem_cons.mp he with rfl | hrest
    · obtain ⟨c, hc⟩ := Option.isSome_iff_exists.mp h.1.1
      exact Scalar.same_iff.mpr ⟨c, hc, hc⟩
    · exact ih h.2 hrest

mutual
theorem same_refl : {v : Yaml} → v.Loaded → v.plain = true → same v v = true
  | .scalar s, _, h => by
    obtain ⟨c, hc⟩ := Option.isSome_iff_exists.mp h
    exact Scalar.same_iff.mpr ⟨c, hc, hc⟩
  | .list _, hl, h => sameItems_refl hl h
  | .dict entries, hl, h => by
    refine same_dict_iff.mpr ⟨rfl, sameEntries_iff.mpr fun e he => ?_⟩
    exact ⟨e.2, lookup_of_mem hl.1 he (plainEntries_key h he), sameEntries_refl hl.2 h e he⟩

theorem sameItems_refl : {vs : List Yaml} → LoadedItems vs → plainItems vs = true →
    sameItems vs vs = true
  | [], _, _ => rfl
  | _ :: _, hl, h => by
    obtain ⟨hhead, htail⟩ := Bool.and_eq_true_iff.mp h
    exact Bool.and_eq_true_iff.mpr ⟨same_refl hl.1 hhead, sameItems_refl hl.2 htail⟩

theorem sameEntries_refl : {xs : List (Scalar × Yaml)} → LoadedEntries xs →
    plainEntries xs = true → ∀ e ∈ xs, same e.2 e.2 = true
  | [], _, _ => by simp
  | (_, _) :: _, hl, h => by
    simp only [plainEntries, Bool.and_eq_true] at h
    intro e he
    rcases List.mem_cons.mp he with rfl | hrest
    · exact same_refl hl.1 h.1.2
    · exact sameEntries_refl hl.2 h.2 e hrest
end

/-! ## Mappings that hold given entries -/

theorem get_of_mem {mapping : Entries} (hkeys : DistinctKeys mapping) {name : String} {v : Yaml}
    (h : (.str (text name), v) ∈ mapping) : get mapping name = v := by
  rw [get, lookup_of_mem hkeys h (by simp), Option.getD_some]

@[simp] theorem keys_entries (members : List (String × Yaml)) :
    (entries members).map (·.1) = (members.map (·.1)).map fun name => .str (text name) := by
  simp [entries]

theorem distinctKeys_entries {members : List (String × Yaml)}
    (h : ((members.map (·.1)).map text).Nodup) : DistinctKeys (entries members) := by
  rw [List.map_map] at h
  refine List.pairwise_map.mpr ((List.pairwise_map.mp h).imp fun hne => ?_)
  simpa using hne

theorem loaded_obj {members : List (String × Yaml)} (hkeys : ((members.map (·.1)).map text).Nodup)
    (hvalues : ∀ e ∈ members, e.2.Loaded) : (obj members).Loaded := by
  refine ⟨distinctKeys_entries hkeys, loadedEntries_iff.mpr fun e he => ?_⟩
  obtain ⟨f, hf, rfl⟩ := List.mem_map.mp he
  exact hvalues f hf

theorem keysAre_entries {members : List (String × Yaml)} {names : List String}
    (h : members.map (·.1) = names) : keysAre (entries members) names = true := by
  refine Bool.and_eq_true_iff.mpr ⟨List.all_eq_true.mpr fun e he => ?_,
    List.all_eq_true.mpr fun name hname => ?_⟩
  · obtain ⟨f, hf, rfl⟩ := List.mem_map.mp he
    exact List.any_eq_true.mpr ⟨f.1, h ▸ List.mem_map_of_mem hf, by simp⟩
  · obtain ⟨f, hf, rfl⟩ := List.mem_map.mp (h ▸ hname)
    refine lookup_isSome_of_content (c := .str (text f.1)) rfl ?_
    exact List.mem_map.mpr ⟨_, List.mem_map_of_mem hf, rfl⟩

/-- A mapping agrees with entries it holds. -/
theorem agrees_of_mem {mapping : Entries} (hkeys : DistinctKeys mapping)
    {expected : List (String × Yaml)} (hmem : ∀ e ∈ entries expected, e ∈ mapping)
    (hloaded : LoadedEntries (entries expected)) (hplain : plainEntries (entries expected) = true) :
    agrees mapping expected = true := by
  refine List.all_eq_true.mpr fun e he => ?_
  have hentry : ((.str (text e.1), e.2) : Scalar × Yaml) ∈ entries expected :=
    List.mem_map_of_mem he
  rw [get_of_mem hkeys (hmem _ hentry)]
  exact sameEntries_refl hloaded hplain _ hentry

/-! ## Comparing part by part -/

/-- A property of keys that equal keys share. -/
def Respects (p : Scalar → Bool) : Prop := ∀ a b : Scalar, a.same b = true → p a = p b

theorem lookup_filter {p : Scalar → Bool} (hp : Respects p) (key : Scalar) (entries : Entries) :
    lookup key (entries.filter fun e => p e.1) = if p key then lookup key entries else none := by
  induction entries with
  | nil => simp [lookup]
  | cons e rest ih =>
    by_cases hk : e.1.same key = true
    · have hpe := hp _ _ hk
      cases hpk : p key <;> simp [lookup, hk, hpe, hpk, ih]
    · cases hpe : p e.1 <;> simp [lookup, hpe, hk, ih]

theorem distinctKeys_filter {entries : Entries} (h : DistinctKeys entries) (p : Scalar → Bool) :
    DistinctKeys (entries.filter fun e => p e.1) := List.Pairwise.filter _ h

theorem loaded_filter {entries : Entries} (h : (dict entries).Loaded) (p : Scalar → Bool) :
    (dict (entries.filter fun e => p e.1)).Loaded :=
  ⟨distinctKeys_filter h.1 p, loadedEntries_iff.mpr fun e he =>
    loadedEntries_iff.mp h.2 e (List.mem_filter.mp he).1⟩

/-- Mappings that agree on the keys with a property are equal when they agree on the others. -/
theorem same_dict_iff_of_part {p : Scalar → Bool} (hp : Respects p) {xs ys : Entries}
    (hpart : same (.dict (xs.filter fun e => p e.1)) (.dict (ys.filter fun e => p e.1)) = true) :
    same (.dict xs) (.dict ys) = true ↔
      same (.dict (xs.filter fun e => !p e.1)) (.dict (ys.filter fun e => !p e.1)) = true := by
  obtain ⟨hlen, hentries⟩ := same_dict_iff.mp hpart
  have hnot : Respects fun k => !p k := fun a b h => congrArg not (hp a b h)
  have hx := List.length_eq_length_filter_add (l := xs) fun e => p e.1
  have hy := List.length_eq_length_filter_add (l := ys) fun e => p e.1
  have hlengths : xs.length = ys.length ↔ (xs.filter fun e => !p e.1).length =
      (ys.filter fun e => !p e.1).length := by omega
  rw [same_dict_iff, same_dict_iff, hlengths, sameEntries_iff, sameEntries_iff]
  refine and_congr_right fun _ => ⟨fun h e he => ?_, fun h e he => ?_⟩
  · obtain ⟨hmem, hpe⟩ := List.mem_filter.mp he
    rw [lookup_filter hnot, if_pos hpe]
    exact h e hmem
  · by_cases hpe : p e.1 = true
    · have := sameEntries_iff.mp hentries e (List.mem_filter.mpr ⟨he, hpe⟩)
      rwa [lookup_filter hp, if_pos hpe] at this
    · have hne : (!p e.1) = true := by simpa using hpe
      have := h e (List.mem_filter.mpr ⟨he, hne⟩)
      rwa [lookup_filter hnot, if_pos hne] at this

end Yaml
end KonnectFapi.Lib

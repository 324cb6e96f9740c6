import KonnectFapi.Lib.Lookup
import KonnectFapi.Lib.Netstring
import KonnectFapi.Lib.SortOn
import KonnectFapi.Source.Transport.OperationKey

/-!
# What a form digest stands for

Source: kong/plugins/fapi-as-mtls-transport/handler.lua:952-966, 1210-1222. The
string that is hashed holds every digested field behind its lengths, in the order
of the names, so it is the same for two forms exactly when their digested fields are.
-/

namespace KonnectFapi.Guarantees
open Lib Source.Transport

/-- A Lua table of strings: one value for a name, in whatever order it is walked. -/
structure FormFields where
  fields : Fields
  distinct : (fields.map Prod.fst).Nodup

/-- The names `table.sort` leaves. -/
def digestedNames (fields : Fields) (excluded : List Bytes) : List Bytes :=
  ((fields.map Prod.fst).filter fun name => !excluded.contains name).insertionSort (· ≤ ·)

/-- The fields the string is built from. -/
def digestedFields (fields : Fields) (excluded : List Bytes) : Fields :=
  (digestedNames fields excluded).map fun name => (name, (fields.lookup name).getD [])

theorem canonicalPair_netstrings (name value : Bytes) :
    canonicalPair name value = netstring name ++ netstring value := by
  simp [canonicalPair, netstring]

theorem canonicalForm_eq (fields : Fields) (excluded : List Bytes) :
    canonicalForm fields excluded =
      join [0] ((digestedFields fields excluded).map fun f => canonicalPair f.1 f.2) := by
  rw [digestedFields, List.map_map]
  rfl

/-- The string determines the fields it was built from. -/
theorem canonicalForm_inj {f g : Fields} {excluded : List Bytes}
    (h : canonicalForm f excluded = canonicalForm g excluded) :
    digestedFields f excluded = digestedFields g excluded := by
  rw [canonicalForm_eq, canonicalForm_eq] at h
  refine join_injective [0] ?_ ?_ h
  · intro a b r s same
    simp only [canonicalPair_netstrings, List.append_assoc] at same
    obtain ⟨names, rest⟩ := netstring_append same
    obtain ⟨values, rest⟩ := netstring_append rest
    exact ⟨Prod.ext names values, rest⟩
  · intro a empty
    rw [canonicalPair_netstrings] at empty
    exact netstring_ne_nil a.1 (List.append_eq_nil_iff.mp empty).1

/-! ## The digested fields -/

theorem mem_digestedNames {fields : Fields} {excluded : List Bytes} {name : Bytes} :
    name ∈ digestedNames fields excluded ↔
      (fields.lookup name).isSome = true ∧ name ∉ excluded := by
  have listed : name ∈ fields.map Prod.fst ↔ (fields.lookup name).isSome = true := by
    constructor
    · intro mem
      obtain ⟨⟨_, value⟩, entry, rfl⟩ := List.mem_map.mp mem
      refine Option.isSome_iff_ne_none.mpr fun missing => ?_
      simpa using List.lookup_eq_none_iff.mp missing _ entry
    · intro found
      obtain ⟨value, found⟩ := Option.isSome_iff_exists.mp found
      exact List.mem_map.mpr ⟨_, mem_of_lookup_eq_some found, rfl⟩
  rw [digestedNames, (List.perm_insertionSort _ _).mem_iff, List.mem_filter, listed]
  simp

theorem digestedNames_congr {f g : FormFields} {excluded : List Bytes}
    (h : ∀ name ∉ excluded, f.fields.lookup name = g.fields.lookup name) :
    digestedNames f.fields excluded = digestedNames g.fields excluded := by
  have nodup : ∀ form : FormFields, (digestedNames form.fields excluded).Nodup := fun form =>
    (List.perm_insertionSort _ _).nodup_iff.mpr (form.distinct.filter _)
  have antisymm : ∀ a b : Bytes, a ≤ b → b ≤ a → a = b := fun a b => List.le_antisymm
  refine List.Perm.eq_of_pairwise (fun a b _ _ => antisymm a b) ?_ ?_ ?_
  · exact List.pairwise_insertionSort _ _
  · exact List.pairwise_insertionSort _ _
  · refine (List.perm_ext_iff_of_nodup (nodup f) (nodup g)).mpr fun name => ?_
    rw [mem_digestedNames, mem_digestedNames]
    exact and_congr_left fun included => by rw [h name included]

theorem lookup_of_digestedFields {f g : Fields} {excluded : List Bytes}
    (h : digestedFields f excluded = digestedFields g excluded) {name : Bytes}
    (included : name ∉ excluded) : f.lookup name = g.lookup name := by
  have names : digestedNames f excluded = digestedNames g excluded := by
    simpa [digestedFields, List.map_map, Function.comp_def] using congrArg (List.map Prod.fst) h
  have present : (f.lookup name).isSome = true ↔ (g.lookup name).isSome = true := by
    have either : name ∈ digestedNames f excluded ↔
        (f.lookup name).isSome = true ∧ name ∉ excluded := mem_digestedNames
    rw [names, mem_digestedNames] at either
    simpa [included] using either.symm
  cases found : f.lookup name with
  | none =>
    cases other : g.lookup name with
    | none => rfl
    | some value => simp [found, other] at present
  | some value =>
    obtain ⟨value', other⟩ := Option.isSome_iff_exists.mp (present.mp (by simp [found]))
    have mem : name ∈ digestedNames g excluded :=
      mem_digestedNames.mpr ⟨by simp [other], included⟩
    rw [digestedFields, digestedFields, names, List.map_inj_left] at h
    have values := congrArg Prod.snd (h name mem)
    rw [other]
    simpa [found, other] using values

/-- Two forms have one canonical string exactly when they agree outside the
excluded names, and the order a form is walked in plays no part. -/
theorem digest_input_exact (f g : FormFields) (excluded : List Bytes) :
    (canonicalForm f.fields excluded = canonicalForm g.fields excluded ↔
      ∀ name ∉ excluded, f.fields.lookup name = g.fields.lookup name) ∧
    ∀ walked : Fields, walked.Perm f.fields →
      canonicalForm walked excluded = canonicalForm f.fields excluded := by
  have agree : ∀ f g : FormFields,
      (∀ name ∉ excluded, f.fields.lookup name = g.fields.lookup name) →
        canonicalForm f.fields excluded = canonicalForm g.fields excluded := by
    intro f g same
    rw [canonicalForm_eq, canonicalForm_eq, digestedFields, digestedFields,
      digestedNames_congr same]
    congr 2
    refine List.map_congr_left fun name mem => ?_
    rw [same name (mem_digestedNames.mp mem).2]
  refine ⟨⟨fun h name included => ?_, agree f g⟩, fun walked order => ?_⟩
  · exact lookup_of_digestedFields (canonicalForm_inj h) included
  · have distinct : (walked.map Prod.fst).Nodup :=
      (order.map Prod.fst).nodup_iff.mpr f.distinct
    exact agree ⟨walked, distinct⟩ f fun name _ => lookup_perm order distinct name

/-- Operations with one digest, other than revocations, ask for the same outside
their assertions. -/
theorem operationDigest_inj {host : Host} (free : CollisionFree host) {clientId text : Bytes}
    {kind : EndpointKind} (kept : kind ≠ .revocation) {fields fields' : Fields}
    (digest : operationDigest host clientId kind fields = some text)
    (digest' : operationDigest host clientId kind fields' = some text) {name : Bytes}
    (plain : name ∉ [ascii "client_assertion", ascii "client_assertion_type"]) :
    fields.lookup name = fields'.lookup name := by
  rw [operationDigest, if_neg kept] at digest digest'
  exact lookup_of_digestedFields (canonicalForm_inj (free.sha256_inj digest digest')) plain

end KonnectFapi.Guarantees

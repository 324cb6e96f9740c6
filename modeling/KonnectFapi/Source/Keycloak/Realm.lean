import KonnectFapi.Source.Keycloak.Mappers

/-!
# Merging named entries into the realm

Source: scripts/sync-keycloak-demo-data.py:186-236. A merged list has every desired entry's
members and keeps the rest; merging once more changes nothing, so a realm that was brought
up to date asks for no further update.
-/

namespace KonnectFapi.Source.Keycloak
open Lib Lib.Json

variable {floats : FloatEquality}

/-! ## Lists of named entries -/

abbrev entryName (entry : Dict) : Option Text := textAt entry "name"

/-- The entry of a name. -/
def entryNamed (entries : List Dict) (name : Text) : Option Dict :=
  entries.find? fun found => textAt found "name" == some name

/-- Every entry has a name of its own, and no member twice. -/
structure NamedEntries (entries : List Dict) : Prop where
  named : ∀ e ∈ entries, (entryName e).isSome
  distinct : (entries.map entryName).Nodup
  members : ∀ e ∈ entries, (e.map Prod.fst).Nodup

/-- The list has an entry of that name with all the members. -/
def Absorbs (entries : List Dict) (name : Text) (entry : Dict) : Prop :=
  ∃ e, entryNamed entries name = some e ∧ ∀ m ∈ entry, e.lookup m.1 = some m.2

theorem entryNamed_some {entries : List Dict} {name : Text} {e : Dict}
    (h : entryNamed entries name = some e) : e ∈ entries ∧ entryName e = some name := by
  have hname := List.find?_some h
  exact ⟨List.mem_of_find?_eq_some h, by simpa using hname⟩

/-- The members of an entry written over those of the entry of its name. -/
theorem mergeEntry_cases (entries : List Dict) (name : Text) (entry : Dict) :
    (entryNamed entries name = none ∧ mergeEntry entries name entry = entries ++ [entry]) ∨
      ∃ before e after, entries = before ++ e :: after ∧ entryName e = some name ∧
        (∀ b ∈ before, entryName b ≠ some name) ∧
        mergeEntry entries name entry = before ++ amend e entry :: after := by
  induction entries with
  | nil => exact Or.inl ⟨rfl, rfl⟩
  | cons e rest ih =>
    by_cases hname : textAt e "name" = some name
    · refine Or.inr ⟨[], e, rest, rfl, hname, fun b hb => (List.not_mem_nil hb).elim, ?_⟩
      rw [mergeEntry, List.findIdx?_cons, hname, beq_self_eq_true]
      rfl
    · have hbeq : (textAt e "name" == some name) = false := beq_eq_false_iff_ne.mpr hname
      have hmerge : mergeEntry (e :: rest) name entry = e :: mergeEntry rest name entry := by
        rw [mergeEntry, mergeEntry, List.findIdx?_cons, hbeq]
        cases rest.findIdx? fun found => textAt found "name" == some name <;> rfl
      rcases ih with ⟨hnone, hrest⟩ | ⟨before, f, after, rfl, hown, hbefore, hrest⟩
      · refine Or.inl ⟨?_, by rw [hmerge, hrest, List.cons_append]⟩
        rw [entryNamed, List.find?_cons, hbeq]
        exact hnone
      · refine Or.inr ⟨e :: before, f, after, rfl, hown, ?_, by rw [hmerge, hrest, List.cons_append]⟩
        exact List.forall_mem_cons.mpr ⟨hname, hbefore⟩

theorem entryNamed_none {entries : List Dict} {name : Text} :
    entryNamed entries name = none ↔ some name ∉ entries.map entryName := by
  rw [entryNamed, List.find?_eq_none]
  simp

theorem entryNamed_append (xs ys : List Dict) (name : Text) :
    entryNamed (xs ++ ys) name = (entryNamed xs name).or (entryNamed ys name) := List.find?_append

theorem entryNamed_cons_self {e : Dict} {name : Text} (h : entryName e = some name)
    (rest : List Dict) : entryNamed (e :: rest) name = some e := by
  have hbeq : (textAt e "name" == some name) = true := beq_iff_eq.mpr h
  rw [entryNamed, List.find?_cons, hbeq]

theorem entryNamed_cons_of_ne {e : Dict} {name : Text} (h : entryName e ≠ some name)
    (rest : List Dict) : entryNamed (e :: rest) name = entryNamed rest name := by
  rw [entryNamed, List.find?_cons, beq_eq_false_iff_ne.mpr h]
  rfl

theorem entryName_amend {e entry : Dict} {name : Text} (hentry : entryName entry = some name)
    (hnodup : (entry.map Prod.fst).Nodup) : entryName (amend e entry) = some name := by
  rw [textAt_eq_some, lookup_amend hnodup, textAt_eq_some.mp hentry, Option.some_or]

/-- What merging one entry does: its members are there, other names are untouched. -/
structure Merged (entries result : List Dict) (name : Text) (entry : Dict) : Prop where
  named : NamedEntries result
  absorbs : Absorbs result name entry
  others : ∀ k, k ≠ name → entryNamed result k = entryNamed entries k

theorem mergeEntry_merged {entries : List Dict} {name : Text} {entry : Dict}
    (h : NamedEntries entries) (hentry : entryName entry = some name)
    (hnodup : (entry.map Prod.fst).Nodup) :
    Merged entries (mergeEntry entries name entry) name entry := by
  have hown : ∀ m ∈ entry, entry.lookup m.1 = some m.2 := fun m hm => lookup_eq_some_of_mem hnodup hm
  rcases mergeEntry_cases entries name entry with ⟨hnone, hmerge⟩ | ⟨before, e, after, rfl, he, hbefore, hmerge⟩
  · rw [hmerge]
    have hfresh := entryNamed_none.mp hnone
    refine ⟨⟨?_, ?_, ?_⟩, ⟨entry, ?_, hown⟩, fun k hk => ?_⟩
    · exact List.forall_mem_append.mpr ⟨h.named, by simp [hentry]⟩
    · rw [List.map_append, List.map_cons, List.map_nil, hentry]
      exact List.nodup_append'.mpr ⟨h.distinct, List.nodup_singleton _,
        List.disjoint_singleton.mpr hfresh⟩
    · exact List.forall_mem_append.mpr ⟨h.members, by simpa using hnodup⟩
    · rw [entryNamed_append, hnone, Option.none_or, entryNamed_cons_self hentry]
    · rw [entryNamed_append, entryNamed_cons_of_ne (by rw [hentry]; simpa using hk.symm)]
      exact Option.or_none ..
  · rw [hmerge]
    have hname : entryName (amend e entry) = some name := entryName_amend hentry hnodup
    have hskip : entryNamed before name = none := by
      rw [entryNamed_none]
      intro hmem
      obtain ⟨b, hb, hbname⟩ := List.mem_map.mp hmem
      exact hbefore b hb hbname
    obtain ⟨namedBefore, namedRest⟩ := List.forall_mem_append.mp h.named
    obtain ⟨membersBefore, membersRest⟩ := List.forall_mem_append.mp h.members
    obtain ⟨membersHead, membersAfter⟩ := List.forall_mem_cons.mp membersRest
    refine ⟨⟨?_, ?_, ?_⟩, ⟨amend e entry, ?_, fun m hm => ?_⟩, fun k hk => ?_⟩
    · refine List.forall_mem_append.mpr ⟨namedBefore, List.forall_mem_cons.mpr ⟨?_, ?_⟩⟩
      · rw [hname, Option.isSome_some]
      · exact (List.forall_mem_cons.mp namedRest).2
    · have hsame : (before ++ amend e entry :: after).map entryName =
          (before ++ e :: after).map entryName := by
        simp only [List.map_append, List.map_cons, hname, he]
      rw [hsame]
      exact h.distinct
    · exact List.forall_mem_append.mpr ⟨membersBefore,
        List.forall_mem_cons.mpr ⟨nodup_amend entry membersHead, membersAfter⟩⟩
    · rw [entryNamed_append, hskip, Option.none_or, entryNamed_cons_self hname]
    · rw [lookup_amend hnodup, hown m hm, Option.some_or]
    · have hne : some name ≠ some k := by simpa using hk.symm
      rw [entryNamed_append, entryNamed_append, entryNamed_cons_of_ne (hname ▸ hne),
        entryNamed_cons_of_ne (he ▸ hne)]

/-- An entry that is there already changes nothing. -/
theorem mergeEntry_absorbed {entries : List Dict} {name : Text} {entry : Dict}
    (h : NamedEntries entries) (habsorbs : Absorbs entries name entry) :
    mergeEntry entries name entry = entries := by
  obtain ⟨own, hown, hmembers⟩ := habsorbs
  rcases mergeEntry_cases entries name entry with ⟨hnone, -⟩ | ⟨before, e, after, rfl, he, hbefore, hmerge⟩
  · rw [hown] at hnone
    cases hnone
  · have hskip : entryNamed before name = none := by
      rw [entryNamed_none]
      intro hmem
      obtain ⟨b, hb, hbname⟩ := List.mem_map.mp hmem
      exact hbefore b hb hbname
    rw [entryNamed_append, hskip, Option.none_or, entryNamed_cons_self he, Option.some.injEq] at hown
    subst hown
    have hnodup := h.members e (List.mem_append_right _ List.mem_cons_self)
    rw [hmerge, amend_eq_self hnodup hmembers]

/-! ## The loops -/

/-- The desired entries, with their names. -/
structure ReadsEntry (item : Json) (entry : Text × Dict) : Prop where
  object : item = .obj entry.2
  named : entryName entry.2 = some entry.1

theorem mergeEntries_ok {label : Text} {seen : List Text} {merged result : List Dict}
    {desired : List Json} :
    mergeEntries label seen merged desired = .ok result ↔
      ∃ entries : List (Text × Dict), List.Forall₂ ReadsEntry desired entries ∧
        (entries.map Prod.fst).Nodup ∧ (∀ e ∈ entries, e.1 ∉ seen) ∧
        result = entries.foldl (fun merged e => mergeEntry merged e.1 e.2) merged := by
  induction desired generalizing seen merged with
  | nil =>
    unfold mergeEntries
    constructor
    · intro h
      exact ⟨[], .nil, List.nodup_nil, fun e he => (List.not_mem_nil he).elim, (Except.ok.inj h).symm⟩
    · rintro ⟨entries, hread, -, -, rfl⟩
      cases hread
      rfl
  | cons item rest ih =>
    unfold mergeEntries
    constructor
    · intro h
      split at h
      · rename_i found
        split at h
        · rename_i name hname
          obtain ⟨fresh, h⟩ := check_bind.mp h
          obtain ⟨entries, hread, hnodup, hseen, rfl⟩ := ih.mp h
          have hnew : name ∉ seen := by simpa using fresh
          refine ⟨(name, found) :: entries, .cons ⟨rfl, hname⟩ hread, ?_, ?_, rfl⟩
          · refine List.nodup_cons.mpr ⟨fun hmem => ?_, hnodup⟩
            obtain ⟨e, he, heq⟩ := List.mem_map.mp hmem
            exact hseen e he (heq ▸ List.mem_cons_self)
          · exact List.forall_mem_cons.mpr ⟨hnew, fun e he hmem =>
              hseen e he (List.mem_cons_of_mem _ hmem)⟩
        · cases h
      · cases h
    · rintro ⟨entries, hread, hnodup, hseen, rfl⟩
      cases hread with
      | @cons _ e _ more head tail =>
        obtain ⟨name, found⟩ := e
        obtain ⟨rfl, hname⟩ := head
        obtain ⟨fresh, hnodup⟩ := List.nodup_cons.mp hnodup
        obtain ⟨hnew, hseen⟩ := List.forall_mem_cons.mp hseen
        dsimp only at hname hnew
        simp only [hname]
        refine check_bind.mpr ⟨by simpa using hnew, ih.mpr ⟨more, tail, hnodup, ?_, rfl⟩⟩
        intro e he hmem
        rcases List.mem_cons.mp hmem with heq | hmem
        · exact fresh (List.mem_map.mpr ⟨e, he, heq⟩)
        · exact hseen e he hmem

theorem currentEntries_ok {label : Text} {seen : List Text} {items : List Json}
    {entries : List Dict} :
    currentEntries label seen items = .ok entries ↔
      items = entries.map .obj ∧ (∀ e ∈ entries, (entryName e).isSome) ∧
        (entries.map entryName).Nodup ∧ ∀ name ∈ seen, some name ∉ entries.map entryName := by
  induction items generalizing seen entries with
  | nil =>
    unfold currentEntries
    constructor
    · intro h
      obtain rfl := Except.ok.inj h
      exact ⟨rfl, fun e he => (List.not_mem_nil he).elim, List.nodup_nil, fun _ _ => List.not_mem_nil⟩
    · rintro ⟨hitems, -⟩
      rw [List.map_eq_nil_iff.mp hitems.symm]
  | cons item rest ih =>
    unfold currentEntries
    constructor
    · intro h
      split at h
      · rename_i found
        split at h
        · rename_i name hname
          obtain ⟨fresh, h⟩ := check_bind.mp h
          obtain ⟨more, hmore, h⟩ := bind_eq_ok.mp h
          obtain rfl := Except.ok.inj h
          obtain ⟨rfl, hnamed, hnodup, hseen⟩ := ih.mp hmore
          have hnew : name ∉ seen := by simpa using fresh
          have hown : entryName found = some name := hname
          refine ⟨rfl, List.forall_mem_cons.mpr ⟨by rw [hown]; rfl, hnamed⟩, ?_, fun k hk => ?_⟩
          · rw [List.map_cons, hown]
            exact List.nodup_cons.mpr ⟨hseen name List.mem_cons_self, hnodup⟩
          · rw [List.map_cons, hown, List.mem_cons, not_or]
            exact ⟨fun heq => hnew (Option.some.inj heq ▸ hk), hseen k (List.mem_cons_of_mem _ hk)⟩
        · cases h
      · cases h
    · rintro ⟨hitems, hnamed, hnodup, hseen⟩
      cases entries with
      | nil => cases hitems
      | cons e more =>
        obtain ⟨rfl, hrest⟩ := List.cons.inj hitems
        obtain ⟨hhead, hnamed⟩ := List.forall_mem_cons.mp hnamed
        obtain ⟨name, hname⟩ := Option.isSome_iff_exists.mp hhead
        rw [List.map_cons, hname] at hnodup hseen
        obtain ⟨fresh, hnodup⟩ := List.nodup_cons.mp hnodup
        have hnew : name ∉ seen := fun hmem => hseen name hmem List.mem_cons_self
        simp only [hname]
        refine check_bind.mpr ⟨by simpa using hnew, bind_eq_ok.mpr ⟨more, ih.mpr ?_, rfl⟩⟩
        refine ⟨hrest, hnamed, hnodup, fun k hk => ?_⟩
        rcases List.mem_cons.mp hk with rfl | hk
        · exact fresh
        · exact fun hmem => hseen k hk (List.mem_cons_of_mem _ hmem)

/-- What merging a whole list does. -/
structure MergedAll (entries result : List Dict) (desired : List (Text × Dict)) : Prop where
  named : NamedEntries result
  absorbs : ∀ d ∈ desired, Absorbs result d.1 d.2
  others : ∀ k, k ∉ desired.map Prod.fst → entryNamed result k = entryNamed entries k

theorem foldl_mergeEntry {desired : List (Text × Dict)} {entries : List Dict}
    (h : NamedEntries entries) (hnodup : (desired.map Prod.fst).Nodup)
    (hnamed : ∀ d ∈ desired, entryName d.2 = some d.1)
    (hmembers : ∀ d ∈ desired, (d.2.map Prod.fst).Nodup) :
    MergedAll entries (desired.foldl (fun merged e => mergeEntry merged e.1 e.2) entries) desired := by
  induction desired generalizing entries with
  | nil => exact ⟨h, fun d hd => (List.not_mem_nil hd).elim, fun _ _ => rfl⟩
  | cons d rest ih =>
    obtain ⟨fresh, hnodup⟩ := List.nodup_cons.mp hnodup
    obtain ⟨namedHead, namedRest⟩ := List.forall_mem_cons.mp hnamed
    obtain ⟨membersHead, membersRest⟩ := List.forall_mem_cons.mp hmembers
    have head := mergeEntry_merged h namedHead membersHead
    have tail := ih head.named hnodup namedRest membersRest
    refine ⟨tail.named, List.forall_mem_cons.mpr ⟨?_, tail.absorbs⟩, fun k hk => ?_⟩
    · obtain ⟨e, he, hinside⟩ := head.absorbs
      exact ⟨e, (tail.others d.1 fresh).trans he, hinside⟩
    · rw [List.map_cons, List.mem_cons, not_or] at hk
      exact (tail.others k hk.2).trans (head.others k hk.1)

/-- A list that has all of them stays as it is. -/
theorem foldl_absorbed {desired : List (Text × Dict)} {entries : List Dict}
    (h : NamedEntries entries) (habsorbs : ∀ d ∈ desired, Absorbs entries d.1 d.2) :
    desired.foldl (fun merged e => mergeEntry merged e.1 e.2) entries = entries := by
  induction desired with
  | nil => rfl
  | cons d rest ih =>
    obtain ⟨head, tail⟩ := List.forall_mem_cons.mp habsorbs
    rw [List.foldl_cons, mergeEntry_absorbed h head]
    exact ih tail

/-! ## Merging and merging again -/

theorem comparable_arr {items : List Json} :
    Comparable floats (.arr items) ↔ ∀ v ∈ items, Comparable floats v := by
  rw [Comparable, comparableItems_iff]

/-- What was read of two lists that were merged. -/
structure Merging (current desired : Json) (merged : List Dict) where
  entries : List Dict
  items : List Json
  wanted : List (Text × Dict)
  current_eq : current = .arr (entries.map .obj)
  desired_eq : desired = .arr items
  named : NamedEntries entries
  read : List.Forall₂ ReadsEntry items wanted
  all : MergedAll entries merged wanted

/-- Merging a list that has been merged gives that list. -/
theorem mergeNamedEntries_again {current desired : Json} {label : Text} {merged : List Dict}
    (hcurrent : Comparable floats current) (hdesired : Comparable floats desired)
    (h : mergeNamedEntries current desired label = .ok merged) :
    mergeNamedEntries (.arr (merged.map .obj)) desired label = .ok merged ∧
      Nonempty (Merging current desired merged) := by
  unfold mergeNamedEntries at h
  split at h
  · rename_i live
    split at h
    · rename_i items
      obtain ⟨entries, hentries, hmerge⟩ := bind_eq_ok.mp h
      obtain ⟨rfl, named, distinct, -⟩ := currentEntries_ok.mp hentries
      obtain ⟨wanted, hread, hnodup, hseen, rfl⟩ := mergeEntries_ok.mp hmerge
      have hmembers : ∀ e ∈ entries, (e.map Prod.fst).Nodup := fun e he =>
        (comparable_obj.mp (comparable_arr.mp hcurrent _ (List.mem_map_of_mem he))).1
      have hall : MergedAll entries
          (wanted.foldl (fun merged e => mergeEntry merged e.1 e.2) entries) wanted := by
        refine foldl_mergeEntry ⟨named, distinct, hmembers⟩ hnodup (fun d hd => ?_) fun d hd => ?_
        · obtain ⟨item, -, hreads⟩ := exists_of_mem_right hread hd
          exact hreads.named
        · obtain ⟨item, hitem, hreads⟩ := exists_of_mem_right hread hd
          exact (comparable_obj.mp (hreads.object ▸ comparable_arr.mp hdesired item hitem)).1
      refine ⟨?_, ⟨⟨entries, items, wanted, rfl, rfl, ⟨named, distinct, hmembers⟩, hread, hall⟩⟩⟩
      have hnames : currentEntries label [] _ = .ok _ := currentEntries_ok.mpr
        ⟨rfl, hall.named.named, hall.named.distinct, fun _ h => (List.not_mem_nil h).elim⟩
      refine bind_eq_ok.mpr ⟨_, hnames, mergeEntries_ok.mpr ⟨wanted, hread, hnodup, hseen, ?_⟩⟩
      exact (foldl_absorbed hall.named hall.absorbs).symm
    · cases h
  · cases h

theorem mergeEntry_comparable {entries : List Dict} {name : Text} {entry : Dict}
    (h : ∀ e ∈ entries, Comparable floats (.obj e)) (hentry : Comparable floats (.obj entry)) :
    ∀ e ∈ mergeEntry entries name entry, Comparable floats (.obj e) := by
  rcases mergeEntry_cases entries name entry with ⟨-, hmerge⟩ | ⟨before, e, after, rfl, -, -, hmerge⟩
  · rw [hmerge]
    exact List.forall_mem_append.mpr ⟨h, by simpa using hentry⟩
  · rw [hmerge]
    obtain ⟨hbefore, hrest⟩ := List.forall_mem_append.mp h
    obtain ⟨he, hafter⟩ := List.forall_mem_cons.mp hrest
    exact List.forall_mem_append.mpr
      ⟨hbefore, List.forall_mem_cons.mpr ⟨comparable_amend he hentry, hafter⟩⟩

theorem foldl_comparable {desired : List (Text × Dict)} {entries : List Dict}
    (h : ∀ e ∈ entries, Comparable floats (.obj e))
    (hdesired : ∀ d ∈ desired, Comparable floats (.obj d.2)) :
    ∀ e ∈ desired.foldl (fun merged e => mergeEntry merged e.1 e.2) entries,
      Comparable floats (.obj e) := by
  induction desired generalizing entries with
  | nil => exact h
  | cons d rest ih =>
    obtain ⟨head, tail⟩ := List.forall_mem_cons.mp hdesired
    exact ih (mergeEntry_comparable h head) tail

theorem mergeNamedEntries_comparable {current desired : Json} {label : Text}
    {merged : List Dict} (hcurrent : Comparable floats current)
    (hdesired : Comparable floats desired)
    (h : mergeNamedEntries current desired label = .ok merged) :
    ∀ e ∈ merged, Comparable floats (.obj e) := by
  unfold mergeNamedEntries at h
  split at h
  · split at h
    · obtain ⟨entries, hentries, hmerge⟩ := bind_eq_ok.mp h
      obtain ⟨rfl, -⟩ := currentEntries_ok.mp hentries
      obtain ⟨wanted, hread, -, -, rfl⟩ := mergeEntries_ok.mp hmerge
      refine foldl_comparable (fun e he => ?_) fun d hd => ?_
      · exact comparable_arr.mp hcurrent _ (List.mem_map_of_mem he)
      · obtain ⟨item, hitem, hreads⟩ := exists_of_mem_right hread hd
        exact hreads.object ▸ comparable_arr.mp hdesired item hitem
    · cases h
  · cases h

/-! ## The realm -/

theorem comparable_getD {found : Dict} (h : Comparable floats (.obj found)) (name : Text)
    {fallback : Json} (hfallback : Comparable floats fallback) :
    Comparable floats ((found.lookup name).getD fallback) := by
  rcases hv : found.lookup name with _ | v
  · exact hfallback
  · exact h.member hv

/-- A merged group, and merging it again. -/
structure Group (floats : FloatEquality) (current desired : Dict) (field collection : String)
    (label : Text) (group : Dict) : Prop where
  comparable : Comparable floats (.obj group)
  again : ∀ current' : Dict, current'.lookup (text field) = some (.obj group) →
    mergedGroup current' desired field collection label = .ok group
  unchanged : ∀ current' : Dict, current'.lookup (text field) = current.lookup (text field) →
    mergedGroup current' desired field collection label = .ok group

theorem group_of_ok {current desired : Dict} {field collection : String} {label : Text}
    {group : Dict} (hcurrent : Comparable floats (.obj current))
    (hdesired : Comparable floats (.obj desired))
    (h : mergedGroup current desired field collection label = .ok group) :
    Group floats current desired field collection label group := by
  have hunchanged : ∀ current' : Dict,
      current'.lookup (text field) = current.lookup (text field) →
      mergedGroup current' desired field collection label = .ok group := fun current' heq => by
    rw [mergedGroup, heq]
    exact h
  unfold mergedGroup at h
  split at h
  · rename_i live hlive
    split at h
    · rename_i desiredGroup hgroup
      obtain ⟨merged, hmerged, hresult⟩ := bind_eq_ok.mp h
      obtain rfl := Except.ok.inj hresult
      have hempty : Comparable floats (.arr []) := trivial
      have hnone : Comparable floats (.obj []) := ⟨List.nodup_nil, trivial⟩
      have hliveComparable : Comparable floats (.obj live) :=
        hlive ▸ comparable_getD hcurrent _ hnone
      have hwanted : Comparable floats (.obj desiredGroup) :=
        hgroup ▸ comparable_getD hdesired _ trivial
      have hitems := comparable_getD hliveComparable (text collection) hempty
      have hwantedItems := comparable_getD hwanted (text collection) hempty
      have hmergedComparable : Comparable floats (.arr (merged.map .obj)) :=
        comparable_arr.mpr (List.forall_mem_map.mpr
          (mergeNamedEntries_comparable hitems hwantedItems hmerged))
      have hcomparable := comparable_put hliveComparable (text collection) hmergedComparable
      refine ⟨hcomparable, fun current' heq => ?_, hunchanged⟩
      have hlookup : (put live (text collection) (.arr (merged.map .obj))).lookup (text collection) =
          some (.arr (merged.map .obj)) := by rw [lookup_put, if_pos rfl]
      unfold mergedGroup
      simp only [heq, Option.getD_some, hgroup, hlookup]
      refine bind_eq_ok.mpr ⟨merged, (mergeNamedEntries_again hitems hwantedItems hmerged).1, ?_⟩
      exact congrArg Except.ok (put_eq_self (comparable_obj.mp hcomparable).1 hlookup)
    · cases h
  · cases h

theorem realmNames_nodup : (realmAdminFields.map text).Nodup := by decide +kernel

/-- The fields that are sent for the realm, before the equal ones are dropped. -/
def realmFields (desired policies profiles : Dict) : Dict :=
  project (realmPlainFields.map text) desired ++
    [(text "clientPolicies", .obj policies), (text "clientProfiles", .obj profiles)]

theorem realmFields_names (desired policies profiles : Dict) :
    (realmFields desired policies profiles).map Prod.fst = realmAdminFields.map text := by
  rw [realmFields, List.map_append, names_project, realmAdminFields, List.map_append]
  rfl

/-- When the planner answers, and what. -/
structure RealmPlan (floats : FloatEquality) (current desired : Dict) (payload : Dict) where
  policies : Dict
  profiles : Dict
  complete : (realmAdminFields.all fun f => (desired.lookup (text f)).isSome) = true
  mergedPolicies :
    mergedGroup current desired "clientPolicies" "policies" (text "client policy") = .ok policies
  mergedProfiles :
    mergedGroup current desired "clientProfiles" "profiles" (text "client profile") = .ok profiles
  payload_eq : payload = (realmFields desired policies profiles).filter
    fun m => !equal floats ((current.lookup m.1).getD .null) m.2

theorem realmAdminPayload_ok {current desired payload : Dict} :
    realmAdminPayload floats (.obj current) (.obj desired) = .ok payload ↔
      Nonempty (RealmPlan floats current desired payload) := by
  unfold realmAdminPayload
  dsimp only
  constructor
  · intro h
    obtain ⟨complete, h⟩ := check_bind.mp h
    obtain ⟨policies, hpolicies, h⟩ := bind_eq_ok.mp h
    obtain ⟨profiles, hprofiles, h⟩ := bind_eq_ok.mp h
    exact ⟨⟨policies, profiles, complete, hpolicies, hprofiles, (Except.ok.inj h).symm⟩⟩
  · rintro ⟨policies, profiles, complete, hpolicies, hprofiles, rfl⟩
    refine check_bind.mpr ⟨complete, bind_eq_ok.mpr ⟨policies, hpolicies, ?_⟩⟩
    exact bind_eq_ok.mpr ⟨profiles, hprofiles, rfl⟩

theorem lookup_filter {found : Dict} (h : (found.map Prod.fst).Nodup) (p : Text × Json → Bool)
    {m : Text × Json} (hm : m ∈ found) :
    (found.filter p).lookup m.1 = if p m then some m.2 else none := by
  have hfilter : ((found.filter p).map Prod.fst).Nodup := h.sublist (List.filter_sublist.map _)
  split
  · rename_i hp
    exact lookup_eq_some_of_mem hfilter (List.mem_filter.mpr ⟨hm, hp⟩)
  · rename_i hp
    rw [← Option.isNone_iff_eq_none, ← Option.isSome_eq_false_iff, ← Bool.not_eq_true]
    intro hsome
    obtain ⟨v, hv⟩ := Option.isSome_iff_exists.mp hsome
    obtain ⟨hmem, hpv⟩ := List.mem_filter.mp (mem_of_lookup_eq_some hv)
    have heq : v = m.2 := Option.some.inj
      ((lookup_eq_some_of_mem h hmem).symm.trans (lookup_eq_some_of_mem h hm))
    rw [heq] at hpv
    exact hp hpv

theorem realmFields_comparable {current desired policies profiles : Dict}
    (hdesired : Comparable floats (.obj desired))
    (hpolicies : Group floats current desired "clientPolicies" "policies" (text "client policy") policies)
    (hprofiles : Group floats current desired "clientProfiles" "profiles" (text "client profile")
      profiles) :
    ∀ m ∈ realmFields desired policies profiles, Comparable floats m.2 := by
  have hnodup : (realmPlainFields.map text).Nodup := by decide +kernel
  refine List.forall_mem_append.mpr
    ⟨(comparable_obj.mp (comparable_project hnodup hdesired)).2, ?_⟩
  rintro m (_ | ⟨_, _ | ⟨_, h⟩⟩)
  · exact hpolicies.comparable
  · exact hprofiles.comparable
  · cases h

/-- A field that is sent for the realm is equal already, or written. -/
theorem realm_field {current desired payload : Dict} (plan : RealmPlan floats current desired payload)
    {m : Text × Json} (hm : m ∈ realmFields desired plan.policies plan.profiles) :
    (equal floats ((current.lookup m.1).getD .null) m.2 = true ∧
        (amend current payload).lookup m.1 = current.lookup m.1) ∨
      (amend current payload).lookup m.1 = some m.2 := by
  have hnodup : ((realmFields desired plan.policies plan.profiles).map Prod.fst).Nodup :=
    realmFields_names desired plan.policies plan.profiles ▸ realmNames_nodup
  rw [plan.payload_eq, lookup_amend (hnodup.sublist (List.filter_sublist.map _)),
    lookup_filter hnodup _ hm]
  cases hequal : equal floats ((current.lookup m.1).getD .null) m.2
  · exact Or.inr rfl
  · exact Or.inl ⟨rfl, rfl⟩

theorem policies_mem (desired policies profiles : Dict) :
    (text "clientPolicies", .obj policies) ∈ realmFields desired policies profiles := by
  simp [realmFields]

theorem profiles_mem (desired policies profiles : Dict) :
    (text "clientProfiles", .obj profiles) ∈ realmFields desired policies profiles := by
  simp [realmFields]

/-- A group merged into the updated realm is the one that was merged. -/
theorem group_again {current desired payload : Dict} (plan : RealmPlan floats current desired payload)
    {field collection : String} {label : Text} {group : Dict}
    (hmem : (text field, Json.obj group) ∈ realmFields desired plan.policies plan.profiles)
    (hgroup : Group floats current desired field collection label group) :
    mergedGroup (amend current payload) desired field collection label = .ok group := by
  rcases realm_field plan hmem with ⟨-, hsame⟩ | hwritten
  · exact hgroup.unchanged _ hsame
  · exact hgroup.again _ hwritten

/-- A realm with the planned fields written asks for nothing. -/
theorem realm_settles {current desired payload : Dict}
    (hcurrent : Comparable floats (.obj current)) (hdesired : Comparable floats (.obj desired))
    (plan : RealmPlan floats current desired payload) :
    realmAdminPayload floats (.obj (amend current payload)) (.obj desired) = .ok [] := by
  have groupPolicies := group_of_ok hcurrent hdesired plan.mergedPolicies
  have groupProfiles := group_of_ok hcurrent hdesired plan.mergedProfiles
  have hcomparable := realmFields_comparable hdesired groupPolicies groupProfiles
  refine realmAdminPayload_ok.mpr ⟨⟨plan.policies, plan.profiles, plan.complete,
    group_again plan (policies_mem ..) groupPolicies, group_again plan (profiles_mem ..) groupProfiles,
    ?_⟩⟩
  refine (List.filter_eq_nil_iff.mpr fun m hm => ?_).symm
  rw [Bool.not_eq_true, Bool.not_eq_false']
  rcases realm_field plan hm with ⟨hequal, hsame⟩ | hwritten
  · rw [hsame]
    exact hequal
  · rw [hwritten, Option.getD_some]
    exact equal_self _ (hcomparable m hm)

/-- Fields the realm plan does not name stay. -/
theorem realm_kept {current desired payload : Dict}
    (plan : RealmPlan floats current desired payload) {name : Text}
    (hname : name ∉ realmAdminFields.map text) :
    (amend current payload).lookup name = current.lookup name := by
  obtain ⟨policies, profiles, -, -, -, rfl⟩ := plan
  have hnodup : ((realmFields desired policies profiles).map Prod.fst).Nodup :=
    realmFields_names desired policies profiles ▸ realmNames_nodup
  rw [lookup_amend (hnodup.sublist (List.filter_sublist.map _))]
  have habsent : ((realmFields desired policies profiles).filter fun m =>
      !equal floats ((current.lookup m.1).getD .null) m.2).lookup name = none := by
    rw [← Option.isNone_iff_eq_none, ← Option.isSome_eq_false_iff, ← Bool.not_eq_true]
    intro hsome
    obtain ⟨v, hv⟩ := Option.isSome_iff_exists.mp hsome
    refine hname (realmFields_names desired policies profiles ▸ ?_)
    exact List.mem_map_of_mem (List.mem_filter.mp (mem_of_lookup_eq_some hv)).1
  rw [habsent, Option.none_or]

end KonnectFapi.Source.Keycloak

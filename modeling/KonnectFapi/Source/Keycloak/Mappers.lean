import KonnectFapi.Lib.Reconcile
import KonnectFapi.Source.Keycloak.Sync

/-!
# Planning and applying the mappers of a client

Source: scripts/sync-keycloak-demo-data.py:137-183 and 504-530. The planner matches by
name; where it answers, its actions are those of the reconciliation by name, the idle ones
left out.
-/

namespace KonnectFapi.Source.Keycloak
open Lib Lib.Json

theorem check_bind {α : Type} {holds : Bool} {message : Text} {next : Unit → Outcome α} {a : α} :
    (check holds message >>= next) = .ok a ↔ holds = true ∧ next () = .ok a := by
  cases holds <;> simp [check, refuse, bind, Except.bind]

theorem check_eq_ok {holds : Bool} {message : Text} {u : Unit} :
    check holds message = .ok u ↔ holds = true := by
  cases holds <;> simp [check, refuse]

@[simp] theorem refuse_ne_ok {α : Type} {message : Text} {a : α} : refuse message ≠ Except.ok a :=
  nofun

theorem textAt_eq_some {mapping : Dict} {name : String} {t : Text} :
    textAt mapping name = some t ↔ mapping.lookup (text name) = some (.str t) := by
  simp [textAt, Option.bind_eq_some_iff, str?_eq_some]

theorem textAt_congr {xs ys : Dict} {name : String}
    (h : xs.lookup (text name) = ys.lookup (text name)) : textAt xs name = textAt ys name := by
  rw [textAt, h, textAt]

theorem dictAt_congr {xs ys : Dict} {name : String}
    (h : xs.lookup (text name) = ys.lookup (text name)) : dictAt xs name = dictAt ys name := by
  rw [dictAt, h, dictAt]

theorem filledAt_eq_some {mapping : Dict} {name : String} {t : Text} :
    filledAt mapping name = some t ↔ textAt mapping name = some t ∧ t ≠ [] := by
  unfold filledAt
  split
  · rename_i hempty
    simp only [reduceCtorEq, hempty, Option.some.injEq, false_iff, not_and, ne_eq, not_not]
    exact fun h => h.symm
  · rename_i hfilled
    refine ⟨fun h => ⟨h, ?_⟩, fun h => h.1⟩
    rintro rfl
    exact hfilled h

/-- An object as it is shown has the fields it has, beside its id. -/
theorem lookup_shown {name : String} (h : text name ≠ text "id") (id : Text) (fields : Dict) :
    List.lookup (text name) ((text "id", .str id) :: fields) = fields.lookup (text name) := by
  rw [List.lookup_cons, beq_eq_false_iff_ne.mpr h]

theorem filledAt_shown {id clientId : Text} {fields : Dict} :
    filledAt ((text "id", .str id) :: fields) "id" = some clientId ↔ id = clientId ∧ id ≠ [] := by
  rw [filledAt_eq_some, textAt_eq_some, List.lookup_cons, beq_self_eq_true]
  simp only [Option.some.injEq, Json.str.injEq]
  constructor
  · rintro ⟨rfl, h⟩
    exact ⟨rfl, h⟩
  · rintro ⟨rfl, h⟩
    exact ⟨rfl, h⟩

theorem project_shown {names : List Text} (h : text "id" ∉ names) (id : Text) (fields : Dict) :
    project names ((text "id", .str id) :: fields) = project names fields := by
  refine project_congr fun name hname => ?_
  rw [List.lookup_cons, beq_eq_false_iff_ne.mpr (ne_of_mem_of_not_mem hname h)]

/-- A body without an id is stored as it is sent. -/
theorem sent_eq_self {body : Dict} (h : text "id" ∉ body.map Prod.fst) : sent body = body := by
  refine List.filter_eq_self.mpr fun m hm => ?_
  simpa using ne_of_mem_of_not_mem (List.mem_map_of_mem hm) h

theorem sent_cons_id (id : Text) (body : Dict) : sent ((text "id", .str id) :: body) = sent body := by
  simp [sent]

abbrev mapperNamesOf : List Text := mapperAdminFields.map text

theorem mapperNamesOf_nodup : mapperNamesOf.Nodup := by decide +kernel

theorem id_not_mem_mapperNames : text "id" ∉ mapperNamesOf := by decide +kernel

theorem name_ne_id : text "name" ≠ text "id" := by decide +kernel

/-- What the planner sends for a mapper. -/
structure MapperPayload (floats : FloatEquality) (payload : Dict) : Prop where
  projected : project mapperNamesOf payload = payload
  comparable : Comparable floats (.obj payload)
  named : textAt payload "name" = some (nameOf payload)

variable {floats : FloatEquality} {supply : IdSupply Text}

theorem mapperPayload_of_ok {desired : Json} {payload : Dict}
    (h : mapperAdminPayload desired = .ok payload) (comparable : Comparable floats desired) :
    MapperPayload floats payload := by
  unfold mapperAdminPayload at h
  dsimp only at h
  split at h
  · rename_i found
    obtain ⟨-, h⟩ := check_bind.mp h
    obtain ⟨filled, h⟩ := check_bind.mp h
    obtain ⟨-, h⟩ := check_bind.mp h
    cases h
    obtain ⟨name, hname⟩ := Option.isSome_iff_exists.mp (List.all_eq_true.mp filled "name" (by simp))
    have hlookup := textAt_eq_some.mp (filledAt_eq_some.mp hname).1
    have hnamed : textAt (project mapperNamesOf found) "name" = some name := by
      rw [textAt_eq_some, lookup_project (by decide +kernel), hlookup, Option.getD_some]
    exact ⟨project_project found, comparable_project mapperNamesOf_nodup comparable, by
      rw [nameOf, hnamed, Option.getD_some]⟩
  · cases h

theorem MapperPayload.names {payload : Dict} (h : MapperPayload floats payload) :
    payload.map Prod.fst = mapperNamesOf := by
  rw [← h.projected, names_project]

theorem MapperPayload.sent {payload : Dict} (h : MapperPayload floats payload) :
    sent payload = payload := sent_eq_self (h.names ▸ id_not_mem_mapperNames)

/-- Mappers are matched by name and compared on the managed fields. -/
def mapperReconciler (floats : FloatEquality) : Reconciler (Option Text) Dict Dict where
  key payload := some (nameOf payload)
  keyOf fields := textAt fields "name"
  settled payload fields := equal floats (.obj (project mapperNamesOf fields)) (.obj payload)
  create payload := payload
  amend payload fields := Json.amend fields payload

theorem mapper_sound {payload : Dict} (h : MapperPayload floats payload) :
    (mapperReconciler floats).Sound payload where
  keyOf_create := h.named
  keyOf_amend fields _ := by
    show textAt (Json.amend fields payload) "name" = some (nameOf payload)
    refine (textAt_congr ?_).trans h.named
    rw [lookup_amend (h.names ▸ mapperNamesOf_nodup), textAt_eq_some.mp h.named, Option.some_or]
  settled_create := by
    show equal floats (.obj (project mapperNamesOf payload)) (.obj payload) = true
    rw [h.projected]
    exact equal_self _ h.comparable
  settled_amend fields _ := by
    show equal floats (.obj (project mapperNamesOf (Json.amend fields payload))) (.obj payload) = true
    rw [project_amend h.names mapperNamesOf_nodup, h.projected]
    exact equal_self _ h.comparable

/-- The action of a step; an idle one has none. -/
def mapperAction : Step Text Dict → Option MapperAction
  | .create payload => some (.create payload)
  | .keep _ _ => none
  | .update id payload => some (.update id payload)

/-- `live_by_name` of a mapper list as it is shown. -/
def mapperIndex (entries : List (Text × Dict)) : List (Text × Dict) :=
  entries.map fun e => (nameOf e.2, (text "id", .str e.1) :: e.2)

theorem textAt_shown (id : Text) (fields : Dict) :
    textAt ((text "id", .str id) :: fields) "name" = textAt fields "name" :=
  textAt_congr (lookup_shown name_ne_id id fields)

theorem indexMappers_ok {entries seen index : List (Text × Dict)}
    (hseen : (seen.map Prod.fst).Nodup) :
    indexMappers seen (entries.map fun e => shown e.1 e.2) = .ok index ↔
      (∀ e ∈ entries, (textAt e.2 "name").isSome) ∧
        (seen.map Prod.fst ++ entries.map fun e => nameOf e.2).Nodup ∧
        index = seen ++ mapperIndex entries := by
  induction entries generalizing seen with
  | nil =>
    simp only [List.map_nil, indexMappers, mapperIndex, List.append_nil, Except.ok.injEq,
      List.not_mem_nil, false_imp_iff, implies_true, true_and, hseen]
    exact eq_comm
  | cons e rest ih =>
    rw [List.map_cons, shown, indexMappers, textAt_shown]
    rcases hname : textAt e.2 "name" with _ | name
    · simp [hname]
    · have hnameOf : nameOf e.2 = name := by rw [nameOf, hname, Option.getD_some]
      dsimp only
      split
      · rename_i taken
        have hmem : name ∈ seen.map Prod.fst := mem_names_iff.mpr taken
        refine ⟨fun h => (refuse_ne_ok h).elim, fun h => ?_⟩
        have hdisjoint := (List.nodup_append'.mp h.2.1).2.2
        exact (hdisjoint hmem (by simp [hnameOf])).elim
      · rename_i free
        have hfresh : name ∉ seen.map Prod.fst := fun h => free (mem_names_iff.mp h)
        have hnext : ((seen ++ [(name, (text "id", Json.str e.1) :: e.2)]).map Prod.fst).Nodup := by
          rw [List.map_append, List.map_cons, List.map_nil]
          exact List.nodup_append'.mpr ⟨hseen, List.nodup_singleton _,
            List.disjoint_singleton.mpr hfresh⟩
        rw [ih hnext]
        simp [hname, hnameOf, mapperIndex]

theorem indexMappers_start {entries index : List (Text × Dict)} :
    indexMappers [] (entries.map fun e => shown e.1 e.2) = .ok index ↔
      (∀ e ∈ entries, (textAt e.2 "name").isSome) ∧ (entries.map fun e => nameOf e.2).Nodup ∧
        index = mapperIndex entries :=
  indexMappers_ok List.nodup_nil

/-- The first mapper of a name is what the index has under it. -/
theorem lookup_mapperIndex (floats : FloatEquality) {mappers : Store Text Dict}
    (named : ∀ e ∈ mappers.entries, (textAt e.2 "name").isSome) (name : Text) :
    (mapperIndex mappers.entries).lookup name =
      ((mapperReconciler floats).found mappers (some name)).head?.map
        fun e => (text "id", .str e.1) :: e.2 := by
  obtain ⟨entries, distinct⟩ := mappers
  change ∀ e ∈ entries, _ at named
  simp only [Reconciler.found, mapperReconciler]
  clear distinct
  induction entries with
  | nil => rfl
  | cons e rest ih =>
    obtain ⟨head, tail⟩ := List.forall_mem_cons.mp named
    obtain ⟨own, hown⟩ := Option.isSome_iff_exists.mp head
    have hnameOf : nameOf e.2 = own := by rw [nameOf, hown, Option.getD_some]
    rw [mapperIndex, List.map_cons, List.lookup_cons, List.filter_cons, hown, hnameOf]
    by_cases h : name = own
    · subst h
      simp
    · rw [beq_eq_false_iff_ne.mpr h]
      rw [if_neg (by simpa using fun heq => h heq.symm)]
      exact ih tail

/-- No mapper without a name, no name twice. -/
structure NamedMappers (mappers : Store Text Dict) : Prop where
  named : ∀ e ∈ mappers.entries, (textAt e.2 "name").isSome
  keyed : (mappers.entries.map fun e => textAt e.2 "name").Nodup

theorem NamedMappers.single {mappers : Store Text Dict} (h : NamedMappers mappers)
    (floats : FloatEquality) (name : Text) : ((mapperReconciler floats).found mappers (some name)).length ≤ 1 :=
  have keyed : (mapperReconciler floats).Keyed mappers := h.keyed
  Reconciler.keyed_iff.mp keyed (some name)

/-- One mapper: what the planner answers is the step of the reconciliation, where the mapper
that stands there has an id. -/
theorem planMapper_ok {mappers : Store Text Dict} (named : NamedMappers mappers)
    {payload : Dict} {step : Option MapperAction} :
    planMapper floats (mapperIndex mappers.entries) payload = .ok step ↔
      (∀ e ∈ (mapperReconciler floats).found mappers (some (nameOf payload)), e.1 ≠ []) ∧
        step = mapperAction ((mapperReconciler floats).planOne mappers payload) := by
  have hsingle := named.single floats (nameOf payload)
  have hkey : (mapperReconciler floats).key payload = some (nameOf payload) := rfl
  rw [planMapper, lookup_mapperIndex floats named.named, Reconciler.planOne, hkey]
  rcases hfound : (mapperReconciler floats).found mappers (some (nameOf payload)) with
    _ | ⟨⟨id, fields⟩, rest⟩
  · simp [mapperAction, eq_comm]
  · have hrest : rest = [] := by
      rw [hfound, List.length_cons] at hsingle
      exact List.eq_nil_of_length_eq_zero (by omega)
    subst hrest
    simp only [List.head?_cons, Option.map_some, List.mem_singleton, forall_eq]
    rcases hid : filledAt ((text "id", .str id) :: fields) "id" with _ | current
    · have hempty : id = [] := by
        by_contra hne
        rw [filledAt_shown.mpr ⟨rfl, hne⟩] at hid
        cases hid
      simp [hempty]
    · obtain ⟨rfl, hne⟩ := filledAt_shown.mp hid
      dsimp only
      rw [project_shown id_not_mem_mapperNames]
      simp only [hne, ne_eq, not_false_eq_true, true_and]
      show (if (mapperReconciler floats).settled payload fields then _ else _) = _ ↔ _
      split
      · simp [mapperAction, eq_comm]
      · simp [mapperAction, eq_comm]

/-- The mappers of a client as they are shown. -/
def shownMappers (mappers : Store Text Dict) : Json :=
  .arr (mappers.entries.map fun e => shown e.1 e.2)

theorem namedMappers_iff {mappers : Store Text Dict} :
    NamedMappers mappers ↔ (∀ e ∈ mappers.entries, (textAt e.2 "name").isSome) ∧
      (mappers.entries.map fun e => nameOf e.2).Nodup := by
  have same : (∀ e ∈ mappers.entries, (textAt e.2 "name").isSome) →
      (mappers.entries.map fun e => textAt e.2 "name") =
        (mappers.entries.map fun e => nameOf e.2).map some := by
    intro named
    rw [List.map_map]
    refine List.map_congr_left fun e he => ?_
    obtain ⟨name, hname⟩ := Option.isSome_iff_exists.mp (named e he)
    simp [nameOf, hname]
  constructor
  · rintro ⟨named, keyed⟩
    rw [same named] at keyed
    exact ⟨named, (List.nodup_map_iff (Option.some_injective _)).mp keyed⟩
  · rintro ⟨named, distinct⟩
    exact ⟨named, by rw [same named]; exact (List.nodup_map_iff (Option.some_injective _)).mpr distinct⟩

/-- When the planner answers. -/
structure MapperPlanning (floats : FloatEquality) (desired : List Json)
    (mappers : Store Text Dict) (payloads : List Dict) : Prop where
  read : List.Forall₂ (fun d p => mapperAdminPayload d = .ok p) desired payloads
  distinct : (payloads.map nameOf).Nodup
  named : NamedMappers mappers
  ids : ∀ p ∈ payloads, ∀ e ∈ (mapperReconciler floats).found mappers (some (nameOf p)), e.1 ≠ []

theorem planMapperSync_ok {desired : List Json} {mappers : Store Text Dict}
    {actions : List MapperAction} :
    planMapperSync floats desired (shownMappers mappers) = .ok actions ↔
      ∃ payloads, MapperPlanning floats desired mappers payloads ∧
        actions = ((mapperReconciler floats).plan mappers payloads).filterMap mapperAction := by
  have flatten : ∀ payloads : List Dict,
      (payloads.map fun p => mapperAction ((mapperReconciler floats).planOne mappers p)).reduceOption =
        ((mapperReconciler floats).plan mappers payloads).filterMap mapperAction := by
    intro payloads
    change List.filterMap id
      (payloads.map fun p => mapperAction ((mapperReconciler floats).planOne mappers p)) = _
    simp only [Reconciler.plan, List.filterMap_map]
    rfl
  unfold planMapperSync
  constructor
  · intro h
    obtain ⟨payloads, hpayloads, h⟩ := bind_eq_ok.mp h
    obtain ⟨distinct, h⟩ := check_bind.mp h
    obtain ⟨index, hindex, h⟩ := bind_eq_ok.mp h
    obtain ⟨steps, hsteps, h⟩ := bind_eq_ok.mp h
    obtain ⟨hnamed, hnodup, rfl⟩ := (indexMappers_start).mp hindex
    have named : NamedMappers mappers := namedMappers_iff.mpr ⟨hnamed, hnodup⟩
    obtain ⟨ids, rfl⟩ := (mapM_eq_ok_map fun _ _ => planMapper_ok named).mp hsteps
    refine ⟨payloads, ⟨mapM_eq_ok.mp hpayloads, of_decide_eq_true distinct, named, ids⟩, ?_⟩
    rw [← flatten]
    exact (Except.ok.inj h).symm
  · rintro ⟨payloads, ⟨read, distinct, named, ids⟩, rfl⟩
    obtain ⟨hnamed, hnodup⟩ := namedMappers_iff.mp named
    refine bind_eq_ok.mpr ⟨payloads, mapM_eq_ok.mpr read, check_bind.mpr ⟨decide_eq_true distinct, ?_⟩⟩
    refine bind_eq_ok.mpr ⟨mapperIndex mappers.entries, ?_, ?_⟩
    · exact (indexMappers_start).mpr ⟨hnamed, by simpa using hnodup, rfl⟩
    · refine bind_eq_ok.mpr ⟨_, (mapM_eq_ok_map fun _ _ => planMapper_ok named).mpr ⟨ids, rfl⟩, ?_⟩
      rw [← flatten]
      rfl

/-! ## Applying -/

theorem isSome_of_planned {mappers : Store Text Dict} {payload : Dict} {id : Text}
    (h : (mapperReconciler floats).planOne mappers payload = .update id payload) :
    (mappers.find? id).isSome := by
  unfold Reconciler.planOne at h
  split at h
  · cases h
  · rename_i found fields rest hfound
    split at h
    · cases h
    · obtain ⟨rfl, -⟩ := Step.update.inj h
      have hmem : (found, fields) ∈ (mapperReconciler floats).found mappers _ :=
        hfound ▸ List.mem_cons_self
      rw [Store.find?_eq_some.mpr (Reconciler.mem_found.mp hmem).1, Option.isSome_some]

/-- What a planned step names is there to be changed, and what it sends has no id. -/
def Applicable (floats : FloatEquality) (mappers : Store Text Dict) : Step Text Dict → Prop
  | .create payload => MapperPayload floats payload
  | .keep _ _ => True
  | .update id payload => (mappers.find? id).isSome ∧ MapperPayload floats payload

theorem Applicable.applyOne {mappers : Store Text Dict} {step other : Step Text Dict}
    (h : Applicable floats mappers other) :
    Applicable floats ((mapperReconciler floats).applyOne supply mappers step) other := by
  cases other with
  | create payload => exact h
  | keep _ _ => trivial
  | update id payload =>
    refine ⟨?_, h.2⟩
    obtain ⟨fields, hfields⟩ := Option.isSome_iff_exists.mp h.1
    cases step with
    | create _ =>
      exact Option.isSome_iff_exists.mpr ⟨fields, Store.find?_add hfields⟩
    | keep _ _ => exact h.1
    | update other _ => exact Store.isSome_find?_modify _ h.1

theorem withMappers_withMappers (s : Server) (clientUuid : Text) (m m' : Store Text Dict) :
    (s.withMappers clientUuid m).withMappers clientUuid m' = s.withMappers clientUuid m' := by
  simp only [Server.withMappers, Store.modify_modify]

theorem onMappers_withMappers {s : Server} {clientUuid : Text} {c : Client}
    (h : s.clients.find? clientUuid = some c) (m : Store Text Dict)
    {f : Store Text Dict → Outcome (Store Text Dict)} {m' : Store Text Dict}
    (hf : f m = .ok m') :
    (s.withMappers clientUuid m).onMappers clientUuid f = .ok (s.withMappers clientUuid m') := by
  have hfind : (s.withMappers clientUuid m).clients.find? clientUuid = some { c with mappers := m } :=
    Store.find?_modify_self _ h
  rw [Server.onMappers, hfind]
  dsimp only
  rw [hf]
  exact congrArg Except.ok (withMappers_withMappers s clientUuid m m')

/-- The actions of a plan, sent one after another, do what its steps do. -/
theorem applyMapperPlan_ok {s : Server} {clientUuid : Text} {c : Client}
    (h : s.clients.find? clientUuid = some c) :
    ∀ {steps : List (Step Text Dict)} {m : Store Text Dict},
      (∀ step ∈ steps, Applicable floats m step) →
      applyMapperPlan supply clientUuid (steps.filterMap mapperAction)
          (s.withMappers clientUuid m) =
        .ok (s.withMappers clientUuid ((mapperReconciler floats).apply supply m steps))
  | [], m, _ => rfl
  | step :: rest, m, applicable => by
    obtain ⟨head, tail⟩ := List.forall_mem_cons.mp applicable
    have next := applyMapperPlan_ok (m := (mapperReconciler floats).applyOne supply m step) h
      fun other (hother : other ∈ rest) => (tail other hother).applyOne
    cases step with
    | create payload =>
      have hstep : applyMapperAction supply clientUuid (.create payload) (s.withMappers clientUuid m) =
          .ok (s.withMappers clientUuid (m.add supply payload)) := by
        rw [applyMapperAction, Server.postMapper, MapperPayload.sent head]
        exact onMappers_withMappers h m rfl
      exact bind_eq_ok.mpr ⟨_, hstep, next⟩
    | keep _ _ => exact next
    | update id payload =>
      obtain ⟨fields, hfields⟩ := Option.isSome_iff_exists.mp head.1
      have hstep : applyMapperAction supply clientUuid (.update id payload)
          (s.withMappers clientUuid m) =
          .ok (s.withMappers clientUuid (m.modify id fun fields => Json.amend fields payload)) := by
        rw [applyMapperAction, Server.putMapper, sent_cons_id, head.2.sent]
        exact onMappers_withMappers h m (by rw [hfields])
      exact bind_eq_ok.mpr ⟨_, hstep, next⟩

end KonnectFapi.Source.Keycloak

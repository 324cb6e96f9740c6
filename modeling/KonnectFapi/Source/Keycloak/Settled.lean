import KonnectFapi.Source.Keycloak.Applying

/-!
# The clients after their plan

Source: scripts/sync-keycloak-demo-data.py:436-541. Every wanted client stands once, agrees
with its payload and has its mappers; a plan made from there is idle.
-/

namespace KonnectFapi.Source.Keycloak
open Lib Lib.Json Reconciler

variable {floats : FloatEquality} {supply : IdSupply Text}

/-! ## Mappers -/

/-- The mappers after the plan made from them. -/
def reconciledMappers (floats : FloatEquality) (supply : IdSupply Text)
    (mappers : Store Text Dict) (payloads : List Dict) : Store Text Dict :=
  (mapperReconciler floats).apply supply mappers ((mapperReconciler floats).plan mappers payloads)

/-- What is wanted of the mappers of one client, and that the planner takes it. -/
structure MappersWanted (floats : FloatEquality) (mappers : Store Text Dict)
    (payloads : List Dict) : Prop where
  payload : ∀ p ∈ payloads, MapperPayload floats p
  distinct : (payloads.map nameOf).Nodup
  named : NamedMappers mappers
  ids : ∀ p ∈ payloads, ∀ e ∈ (mapperReconciler floats).found mappers (some (nameOf p)), e.1 ≠ []

theorem MappersWanted.reconciled {mappers : Store Text Dict} {payloads : List Dict}
    (h : MappersWanted floats mappers payloads) (supply : IdSupply Text) :
    (∀ p ∈ payloads, Fulfilled (mapperReconciler floats) supply mappers
        (reconciledMappers floats supply mappers payloads) p) ∧
      Apart (mapperReconciler floats) mappers (reconciledMappers floats supply mappers payloads)
        (payloads.map (mapperReconciler floats).key) := by
  have distinct : (payloads.map (mapperReconciler floats).key).Nodup := by
    have hsome : payloads.map (mapperReconciler floats).key = (payloads.map nameOf).map some := by
      rw [List.map_map]
      rfl
    rw [hsome]
    exact (List.nodup_map_iff (Option.some_injective _)).mpr h.distinct
  exact apply_fulfils supply (fun p hp => mapper_sound (h.payload p hp)) distinct
    fun p _ => h.named.single floats (nameOf p)

/-- A mapper without a name is one found under no name. -/
theorem named_iff_found (floats : FloatEquality) {mappers : Store Text Dict} :
    (∀ e ∈ mappers.entries, (textAt e.2 "name").isSome) ↔
      (mapperReconciler floats).found mappers none = [] := by
  rw [found, List.filter_eq_nil_iff]
  refine forall₂_congr fun e _ => ?_
  rcases hname : textAt e.2 "name" with _ | name <;> simp [mapperReconciler, hname]

/-- The reconciled mappers are wanted still, and their plan is empty. -/
theorem MappersWanted.settles (filled : ∀ taken, supply.next taken ≠ [])
    {mappers : Store Text Dict} {payloads : List Dict}
    (h : MappersWanted floats mappers payloads) :
    MappersWanted floats (reconciledMappers floats supply mappers payloads) payloads ∧
      ((mapperReconciler floats).plan (reconciledMappers floats supply mappers payloads)
        payloads).filterMap mapperAction = [] := by
  obtain ⟨fulfilled, apart⟩ := h.reconciled supply
  have named : NamedMappers (reconciledMappers floats supply mappers payloads) := by
    refine ⟨(named_iff_found floats).mpr ?_, ?_⟩
    · have hnone : none ∉ payloads.map (mapperReconciler floats).key := by
        intro hmem
        obtain ⟨p, -, hp⟩ := List.mem_map.mp hmem
        cases hp
      exact (apart.found none hnone).trans ((named_iff_found floats).mp h.named.named)
    · have keyed : (mapperReconciler floats).Keyed mappers := h.named.keyed
      exact keyed_of_fulfilled keyed fulfilled apart
  refine ⟨⟨h.payload, h.distinct, named, fun p hp e he => ?_⟩, ?_⟩
  · obtain ⟨id, fields, hfound, -, hfrom⟩ := fulfilled p hp
    have hentry : e ∈ [(id, fields)] := hfound ▸ he
    obtain rfl := List.mem_singleton.mp hentry
    rcases hfrom with ⟨-, -, taken, rfl⟩ | ⟨old, hold, -⟩
    · exact filled taken
    · exact h.ids p hp (id, old) (hold ▸ List.mem_singleton_self _)
  · refine List.filterMap_eq_nil_iff.mpr fun step hstep => ?_
    obtain ⟨p, hp, rfl⟩ := List.mem_map.mp hstep
    obtain ⟨id, fields, hfound, hsettled, -⟩ := fulfilled p hp
    rw [planOne_keep hfound hsettled]
    rfl

/-! ## Clients -/

/-- The clients after the first loop. -/
def createdClients (floats : FloatEquality) (supply : IdSupply Text) (clients : Store Text Client)
    (wanted : List WantedClient) : Store Text Client :=
  (clientReconciler floats).apply supply clients ((clientReconciler floats).plan clients wanted)

/-- The wanted clients, each read to be planned for once. -/
structure ClientsWanted (floats : FloatEquality) (clients : Store Text Client)
    (wanted : List WantedClient) : Prop where
  planned : ∀ w ∈ wanted, Planned floats clients w
  distinct : (wanted.map (clientReconciler floats).key).Nodup

theorem ClientsWanted.created {clients : Store Text Client} {wanted : List WantedClient}
    (h : ClientsWanted floats clients wanted) (supply : IdSupply Text) :
    (∀ w ∈ wanted, Fulfilled (clientReconciler floats) supply clients
        (createdClients floats supply clients wanted) w) ∧
      Apart (clientReconciler floats) clients (createdClients floats supply clients wanted)
        (wanted.map (clientReconciler floats).key) :=
  apply_fulfils supply (fun w hw => client_sound w (h.planned w hw).payload) h.distinct
    fun w hw => (h.planned w hw).ready.single

/-- A client has the mappers that were planned from. -/
theorem mappers_comeFrom {clients : Store Text Client} {wanted : WantedClient} {id : Text} {c : Client}
    (h : ComesFrom (clientReconciler floats) supply clients wanted id c) :
    c.mappers = mappersUnder floats clients wanted := by
  unfold mappersUnder
  rcases h with ⟨hfound, rfl, -⟩ | ⟨old, hfound, rfl | rfl⟩
  · rw [hfound]
    rfl
  · rw [hfound]
  · rw [hfound]
    rfl

/-- What a wanted client is after both loops. -/
def Stands (floats : FloatEquality) (supply : IdSupply Text) (clients clients' : Store Text Client)
    (wanted : WantedClient) : Prop :=
  ∃ id c, (clientReconciler floats).found clients' ((clientReconciler floats).key wanted) =
      [(id, withMappersOf floats supply wanted c)] ∧
    (clientReconciler floats).settled wanted c = true ∧
    ComesFrom (clientReconciler floats) supply clients wanted id c

/-- Both loops. -/
theorem applyClientSync_ok (supply : IdSupply Text) (filled : ∀ taken, supply.next taken ≠ []) {s : Server}
    {wanted : List WantedClient} (h : ClientsWanted floats s.clients wanted) :
    ∃ clients' counts, applyClientSync supply (wanted.map (plannedAction floats s.clients)) s =
        .ok (s.withClients clients', counts) ∧
      (∀ w ∈ wanted, Stands floats supply s.clients clients' w) ∧
      Apart (clientReconciler floats) s.clients clients'
        (wanted.map (clientReconciler floats).key) := by
  obtain ⟨fulfilled, apart⟩ := h.created supply
  obtain ⟨uuids, hfirst, hfound⟩ := applyClientActions_ok filled h.planned h.distinct
    (t := s) fun _ _ => rfl
  obtain ⟨hlength, hzip⟩ := List.forall₂_iff_zip.mp hfound.flip
  have hsteps : ∀ step ∈ uuids.zip wanted, step.2 ∈ wanted ∧ ∃ c,
      (clientReconciler floats).found (createdClients floats supply s.clients wanted)
        ((clientReconciler floats).key step.2) = [(step.1, c)] := by
    intro step hstep
    exact ⟨(List.of_mem_zip hstep).2, hzip hstep⟩
  have hkeys : (uuids.zip wanted).map (fun step => (clientReconciler floats).key step.2) =
      wanted.map (clientReconciler floats).key := by
    have hmap : (uuids.zip wanted).map (fun step => (clientReconciler floats).key step.2) =
        ((uuids.zip wanted).map Prod.snd).map (clientReconciler floats).key := List.map_map.symm
    rw [hmap, List.map_snd_zip (Nat.le_of_eq hlength.symm)]
  have hplans : uuids.zip ((wanted.map (plannedAction floats s.clients)).map (·.mapperPlan)) =
      (uuids.zip wanted).map fun step =>
        (step.1, (plannedAction floats s.clients step.2).mapperPlan) := by
    rw [List.map_map, List.zip_map_right]
    rfl
  have nodup : ((uuids.zip wanted).map fun step => (clientReconciler floats).key step.2).Nodup :=
    hkeys ▸ h.distinct
  -- A wanted client is the one that was created, updated or found, its mappers as planned from.
  have stands : ∀ step ∈ uuids.zip wanted, ∃ c,
      (clientReconciler floats).found (createdClients floats supply s.clients wanted)
        ((clientReconciler floats).key step.2) = [(step.1, c)] ∧
      (clientReconciler floats).settled step.2 c = true ∧
      ComesFrom (clientReconciler floats) supply s.clients step.2 step.1 c := by
    intro step hstep
    obtain ⟨hw, c, hc⟩ := hsteps step hstep
    obtain ⟨id, a, hfound, hsettled, hfrom⟩ := fulfilled step.2 hw
    obtain ⟨rfl, rfl⟩ := Prod.mk.inj (List.singleton_inj.mp (hfound.symm.trans hc))
    exact ⟨a, hc, hsettled, hfrom⟩
  have hsecond := applyMapperPlans_ok floats supply s.clients
    (t := s.withClients (createdClients floats supply s.clients wanted))
    (fun step hstep => (h.planned _ (hsteps step hstep).1).mappers) nodup fun step hstep => by
      obtain ⟨c, hc, -, hfrom⟩ := stands step hstep
      exact ⟨c, hc, mappers_comeFrom hfrom⟩
  obtain ⟨each, apartMappers⟩ := modifyEach_found (r := clientReconciler floats)
    (g := withMappersOf floats supply) (fun _ _ => rfl) nodup fun step hstep =>
      (hsteps step hstep).2
  refine ⟨_, _, bind_eq_ok.mpr ⟨_, hfirst, bind_eq_ok.mpr ⟨_, hplans ▸ hsecond, rfl⟩⟩, ?_, ?_⟩
  · intro w hw
    obtain ⟨step, hstep, rfl⟩ : ∃ step ∈ uuids.zip wanted, step.2 = w := by
      rw [← List.map_snd_zip (Nat.le_of_eq hlength.symm)] at hw
      exact List.mem_map.mp hw
    obtain ⟨c, hc, hsettled, hfrom⟩ := stands step hstep
    exact ⟨step.1, c, each step hstep c hc, hsettled, hfrom⟩
  · refine ⟨fun k hk => ?_, fun id c hc hkeep => ?_⟩
    · exact (apartMappers.found k (hkeys ▸ hk)).trans (apart.found k hk)
    · exact apartMappers.kept id c (apart.kept id c hc hkeep) (hkeys ▸ hkeep)

/-! ## The next plan -/

/-- An action that sends nothing. -/
structure Idle (action : ClientAction) : Prop where
  standing : ∃ clientUuid current, action.standing = .noop clientUuid current
  mapperPlan : action.mapperPlan = []

theorem Planned.mappersWanted {clients : Store Text Client} {wanted : WantedClient}
    (h : Planned floats clients wanted) :
    MappersWanted floats (mappersUnder floats clients wanted) wanted.mappers :=
  ⟨h.mappers, h.ready.distinct, h.ready.named, h.ready.mapperIds⟩

/-- A client that stands is planned for again, and nothing is left to send. -/
theorem Stands.settles (filled : ∀ taken, supply.next taken ≠ []) {clients clients' : Store Text Client}
    {wanted : WantedClient} (planned : Planned floats clients wanted)
    (h : Stands floats supply clients clients' wanted) :
    Planned floats clients' wanted ∧ Idle (plannedAction floats clients' wanted) := by
  obtain ⟨id, c, hfound, hsettled, hfrom⟩ := h
  obtain ⟨wantedAgain, noPlan⟩ := planned.mappersWanted.settles filled
  have hmappers : mappersUnder floats clients' wanted =
      reconciledMappers floats supply (mappersUnder floats clients wanted) wanted.mappers := by
    rw [mappersUnder, hfound, ← mappers_comeFrom hfrom]
    rfl
  have hid : id ≠ [] := by
    rcases hfrom with ⟨-, -, taken, rfl⟩ | ⟨old, hold, -⟩
    · exact filled taken
    · exact planned.ready.ids (id, old) (hold ▸ List.mem_singleton_self _)
  rw [← hmappers] at wantedAgain noPlan
  refine ⟨⟨planned.payload, planned.mappers, ?_⟩, ?_⟩
  · refine ⟨?_, ?_, wantedAgain.distinct, wantedAgain.named, wantedAgain.ids⟩
    · rw [hfound, List.length_singleton]
    · rw [hfound]
      simpa using hid
  · have hagain : (clientReconciler floats).settled wanted (withMappersOf floats supply wanted c) =
        true := hsettled
    refine ⟨⟨id, (text "id", .str id) :: c.fields, ?_⟩, noPlan⟩
    rw [plannedAction, plannedClient, hfound]
    dsimp only
    rw [if_pos hagain]
    rfl

theorem ClientsWanted.settles (filled : ∀ taken, supply.next taken ≠ [])
    {clients clients' : Store Text Client} {wanted : List WantedClient}
    (h : ClientsWanted floats clients wanted)
    (stands : ∀ w ∈ wanted, Stands floats supply clients clients' w) :
    ClientsWanted floats clients' wanted ∧
      ∀ action ∈ wanted.map (plannedAction floats clients'), Idle action :=
  ⟨⟨fun w hw => ((stands w hw).settles filled (h.planned w hw)).1, h.distinct⟩,
    List.forall_mem_map.mpr fun w hw => ((stands w hw).settles filled (h.planned w hw)).2⟩

/-! ## Idle plans -/

theorem applyClientActions_idle (supply : IdSupply Text) {s : Server} :
    ∀ {plan : List ClientAction}, (∀ action ∈ plan, Idle action) →
      ∃ uuids, applyClientActions supply plan s = .ok (s, uuids)
  | [], _ => ⟨[], rfl⟩
  | action :: rest, h => by
    obtain ⟨head, tail⟩ := List.forall_mem_cons.mp h
    obtain ⟨uuid, current, hstanding⟩ := head.standing
    obtain ⟨uuids, hrest⟩ := applyClientActions_idle supply tail
    have hstep : applyClientAction supply action s = .ok (s, uuid) := by
      rw [applyClientAction, hstanding]
    exact ⟨uuid :: uuids, bind_eq_ok.mpr ⟨_, hstep, bind_eq_ok.mpr ⟨_, hrest, rfl⟩⟩⟩

theorem applyMapperPlans_idle {s : Server} :
    ∀ {plans : List (Text × List MapperAction)}, (∀ p ∈ plans, p.2 = []) →
      applyMapperPlans supply plans s = .ok s
  | [], _ => rfl
  | (uuid, mapperPlan) :: rest, h => by
    obtain ⟨rfl, tail⟩ := List.forall_mem_cons.mp h
    exact bind_eq_ok.mpr ⟨s, rfl, applyMapperPlans_idle tail⟩

theorem applyClientSync_idle (supply : IdSupply Text) {s : Server} {plan : List ClientAction}
    (h : ∀ action ∈ plan, Idle action) :
    ∃ counts, applyClientSync supply plan s = .ok (s, counts) := by
  obtain ⟨uuids, hfirst⟩ := applyClientActions_idle (s := s) supply h
  have hsecond : applyMapperPlans supply (uuids.zip (plan.map (·.mapperPlan))) s = .ok s := by
    refine applyMapperPlans_idle fun p hp => ?_
    obtain ⟨action, haction, hmapperPlan⟩ := List.mem_map.mp (List.of_mem_zip hp).2
    exact hmapperPlan ▸ (h action haction).mapperPlan
  exact ⟨_, bind_eq_ok.mpr ⟨_, hfirst, bind_eq_ok.mpr ⟨_, hsecond, rfl⟩⟩⟩

theorem Idle.unchanged {action : ClientAction} (h : Idle action) :
    (!action.standing.changes && action.mapperPlan.isEmpty) = true := by
  obtain ⟨⟨uuid, current, hstanding⟩, hmapperPlan⟩ := h
  rw [hstanding, hmapperPlan]
  rfl

end KonnectFapi.Source.Keycloak

import KonnectFapi.Source.Keycloak.Clients

/-!
# The client plan and what carrying it out does

Source: scripts/sync-keycloak-demo-data.py:378-531. The plan is made from one reading of
the server. Carried out on that server it is a reconciliation of the clients by client id,
followed by one of the mappers of each.
-/

namespace KonnectFapi.Source.Keycloak
open Lib Lib.Json Reconciler

variable {floats : FloatEquality} {supply : IdSupply Text}

/-! ## Planning one client -/

theorem clientsWith_eq (floats : FloatEquality) (s : Server) (clientId : Text) :
    s.clientsWith clientId =
      .arr (((clientReconciler floats).found s.clients (some clientId)).map
        fun e => shown e.1 e.2.fields) := by
  rw [Server.clientsWith, found]
  congr 2
  refine List.filter_congr fun e _ => ?_
  by_cases h : textAt e.2.fields "clientId" = some clientId <;> simp [h, clientReconciler]

/-- The action for a wanted client, its mappers aside. -/
def plannedClient (floats : FloatEquality) (clients : Store Text Client) (wanted : WantedClient) :
    ClientAction :=
  match (clientReconciler floats).found clients ((clientReconciler floats).key wanted) with
  | [] => ⟨clientIdOf wanted.payload, wanted.payload, .create, []⟩
  | (id, c) :: _ =>
    let current : Dict := (text "id", .str id) :: c.fields
    if (clientReconciler floats).settled wanted c then
      ⟨clientIdOf wanted.payload, wanted.payload, .noop id current, []⟩
    else ⟨clientIdOf wanted.payload, wanted.payload, .update id current, []⟩

theorem clientAgrees_shown (payload : Dict) (id : Text) (fields : Dict) :
    clientAgrees floats payload ((text "id", .str id) :: fields) = clientAgrees floats payload fields := by
  rw [clientAgrees, clientAgrees, project_shown id_not_mem_clientNames]

theorem planClient_ok {s : Server} {matched : Dict} {desired : Json} {action : ClientAction}
    (hmatched : ∀ p, clientAdminPayload desired = .ok p →
      matched.lookup (clientIdOf p) = some (s.clientsWith (clientIdOf p))) :
    planClient floats matched desired = .ok action ↔
      ∃ payload, clientAdminPayload desired = .ok payload ∧
        ((clientReconciler floats).found s.clients (some (clientIdOf payload))).length ≤ 1 ∧
        (∀ e ∈ (clientReconciler floats).found s.clients (some (clientIdOf payload)), e.1 ≠ []) ∧
        action = plannedClient floats s.clients ⟨payload, []⟩ := by
  unfold planClient
  rw [bind_eq_ok]
  refine exists_congr fun payload => and_congr_right fun hpayload => ?_
  have hlookup := hmatched payload hpayload
  rw [clientIdOf, clientsWith_eq floats] at hlookup
  dsimp only
  rw [hlookup]
  dsimp only
  have hkey : (clientReconciler floats).key ⟨payload, []⟩ = some (clientIdOf payload) := rfl
  rw [plannedClient, hkey]
  have hid : (textAt payload "clientId").getD [] = clientIdOf payload := rfl
  rw [hid]
  rcases hfound : (clientReconciler floats).found s.clients (some (clientIdOf payload)) with
    _ | ⟨⟨id, c⟩, _ | ⟨e, rest⟩⟩
  · simp [pure, Except.pure, eq_comm]
  · have hown : textAt ((text "id", .str id) :: c.fields) "clientId" = some (clientIdOf payload) := by
      have hmem := mem_found.mp (hfound ▸ List.mem_singleton_self (id, c))
      exact (textAt_congr (lookup_shown clientId_ne_id id c.fields)).trans hmem.2
    simp only [List.map_cons, List.map_nil, shown, List.length_singleton, Nat.le_refl, true_and,
      List.mem_singleton, forall_eq]
    rw [check_bind, hown, beq_self_eq_true]
    simp only [true_and]
    rcases hfilled : filledAt ((text "id", .str id) :: c.fields) "id" with _ | current
    · have hempty : id = [] := by
        by_contra hne
        rw [filledAt_shown.mpr ⟨rfl, hne⟩] at hfilled
        cases hfilled
      simp [hempty]
    · obtain ⟨rfl, hne⟩ := filledAt_shown.mp hfilled
      dsimp only
      rw [clientAgrees_shown]
      have hsettled : (clientReconciler floats).settled ⟨payload, []⟩ c =
          clientAgrees floats payload c.fields := rfl
      rw [hsettled]
      split <;> simp [hne, pure, Except.pure, eq_comm]
  · simp

/-! ## Planning all of them -/

theorem forall₂_zip {α β γ : Type} {P : α → β → Prop} {Q : β → α → γ → Prop} {xs : List α}
    {zs : List γ} :
    (∃ ys, List.Forall₂ P xs ys ∧ List.Forall₂ (fun p z => Q p.1 p.2 z) (ys.zip xs) zs) ↔
      List.Forall₂ (fun x z => ∃ y, P x y ∧ Q y x z) xs zs := by
  induction xs generalizing zs with
  | nil => simp
  | cons x rest ih =>
    constructor
    · rintro ⟨ys, hP, hQ⟩
      cases hP with
      | cons head tail =>
        rw [List.zip_cons_cons] at hQ
        cases hQ with
        | cons headQ tailQ => exact .cons ⟨_, head, headQ⟩ (ih.mp ⟨_, tail, tailQ⟩)
    · intro h
      cases h with
      | cons head tail =>
        obtain ⟨y, hP, hQ⟩ := head
        obtain ⟨ys, tailP, tailQ⟩ := ih.mpr tail
        exact ⟨y :: ys, .cons hP tailP, .cons hQ tailQ⟩

theorem forall₂_map {α β γ : Type} {R : α → β → Prop} {good : β → Prop} {f : β → γ}
    {xs : List α} {zs : List γ} :
    List.Forall₂ (fun x z => ∃ y, R x y ∧ good y ∧ z = f y) xs zs ↔
      ∃ ys, List.Forall₂ R xs ys ∧ (∀ y ∈ ys, good y) ∧ zs = ys.map f := by
  induction xs generalizing zs with
  | nil => simp
  | cons x rest ih =>
    constructor
    · intro h
      cases h with
      | cons head tail =>
        obtain ⟨y, hR, hgood, rfl⟩ := head
        obtain ⟨ys, tailR, tailGood, rfl⟩ := ih.mp tail
        exact ⟨y :: ys, .cons hR tailR, List.forall_mem_cons.mpr ⟨hgood, tailGood⟩, rfl⟩
    · rintro ⟨ys, hR, hgood, rfl⟩
      cases hR with
      | cons head tail =>
        obtain ⟨headGood, tailGood⟩ := List.forall_mem_cons.mp hgood
        exact .cons ⟨_, head, headGood, rfl⟩ (ih.mpr ⟨_, tail, tailGood, rfl⟩)

theorem forall₂_with_mem {α β : Type} {R : α → β → Prop} {xs : List α} {ys : List β}
    (h : List.Forall₂ R xs ys) : List.Forall₂ (fun x y => x ∈ xs ∧ R x y) xs ys := by
  induction h with
  | nil => exact .nil
  | cons head _ ih =>
    exact .cons ⟨List.mem_cons_self, head⟩ (ih.imp fun _ _ h => ⟨List.mem_cons_of_mem _ h.1, h.2⟩)

theorem exists_of_mapM {α β : Type} {f : α → Option β} {xs : List α} {ys : List β}
    (h : xs.mapM f = some ys) {x : α} (hx : x ∈ xs) : ∃ y ∈ ys, f x = some y := by
  induction xs generalizing ys with
  | nil => cases hx
  | cons v rest ih =>
    rw [List.mapM_cons] at h
    obtain ⟨y, hy, h⟩ := Option.bind_eq_some_iff.mp h
    obtain ⟨more, hmore, h⟩ := Option.bind_eq_some_iff.mp h
    obtain rfl := Option.some.inj h
    rcases List.mem_cons.mp hx with rfl | hx
    · exact ⟨y, List.mem_cons_self, hy⟩
    · obtain ⟨z, hz, hfx⟩ := ih hmore hx
      exact ⟨z, List.mem_cons_of_mem _ hz, hfx⟩

/-- A desired client says what is wanted. -/
structure Asks (desired : Json) (wanted : WantedClient) : Prop where
  payload : clientAdminPayload desired = .ok wanted.payload
  mappers : ∃ mappers, desiredMappers desired = .ok mappers ∧
    List.Forall₂ (fun d p => mapperAdminPayload d = .ok p) mappers wanted.mappers

/-- The mappers of the client that stands under the client id. -/
def mappersUnder (floats : FloatEquality) (clients : Store Text Client) (wanted : WantedClient) :
    Store Text Dict :=
  match (clientReconciler floats).found clients ((clientReconciler floats).key wanted) with
  | [] => .empty
  | (_, c) :: _ => c.mappers

/-- What the planner requires of the server for a wanted client. -/
structure ClientReady (floats : FloatEquality) (clients : Store Text Client)
    (wanted : WantedClient) : Prop where
  single : ((clientReconciler floats).found clients ((clientReconciler floats).key wanted)).length ≤ 1
  ids : ∀ e ∈ (clientReconciler floats).found clients ((clientReconciler floats).key wanted), e.1 ≠ []
  distinct : (wanted.mappers.map nameOf).Nodup
  named : NamedMappers (mappersUnder floats clients wanted)
  mapperIds : ∀ p ∈ wanted.mappers, ∀ e ∈ (mapperReconciler floats).found
    (mappersUnder floats clients wanted) (some (nameOf p)), e.1 ≠ []

/-- The whole action for a wanted client. -/
def plannedAction (floats : FloatEquality) (clients : Store Text Client) (wanted : WantedClient) :
    ClientAction :=
  { plannedClient floats clients wanted with
    mapperPlan := ((mapperReconciler floats).plan (mappersUnder floats clients wanted)
      wanted.mappers).filterMap mapperAction }

theorem lookup_map_text {names : List String} {f : Text → Json} {key : Text}
    (h : key ∈ names.map text) :
    (names.map fun name => (text name, f (text name))).lookup key = some (f key) := by
  induction names with
  | nil => cases h
  | cons name rest ih =>
    rw [List.map_cons, List.lookup_cons]
    by_cases hname : key = text name
    · subst hname
      rw [beq_self_eq_true]
    · rw [beq_eq_false_iff_ne.mpr hname]
      exact ih ((List.mem_cons.mp h).resolve_left hname)

/-- The mappers a planned client is planned from. -/
theorem liveMappers_planned {s : Server} {wanted : WantedClient} {live : Json} :
    liveMappers s (plannedClient floats s.clients wanted).standing = .ok live ↔
      live = shownMappers (mappersUnder floats s.clients wanted) := by
  rw [plannedClient, mappersUnder]
  rcases hfound : (clientReconciler floats).found s.clients ((clientReconciler floats).key wanted) with
    _ | ⟨⟨id, c⟩, rest⟩
  · simp [liveMappers, shownMappers, Store.empty, eq_comm]
  · have hfind : s.clients.find? id = some c :=
      Store.find?_eq_some.mpr (mem_found.mp (hfound ▸ List.mem_cons_self)).1
    have hof : s.mappersOf id = .ok (shownMappers c.mappers) := by
      rw [Server.mappersOf, hfind]
      rfl
    dsimp only
    split <;> simp [liveMappers, hof, eq_comm]

/-- One client, planned with its mappers. -/
theorem planned_ok {s : Server} {matched : Dict} {desired : Json} {action : ClientAction}
    (hmatched : ∀ p, clientAdminPayload desired = .ok p →
      matched.lookup (clientIdOf p) = some (s.clientsWith (clientIdOf p))) :
    (∃ first, planClient floats matched desired = .ok first ∧
        withMapperPlan floats s first desired = .ok action) ↔
      ∃ wanted, Asks desired wanted ∧ ClientReady floats s.clients wanted ∧
        action = plannedAction floats s.clients wanted := by
  constructor
  · rintro ⟨first, hfirst, h⟩
    obtain ⟨payload, hpayload, single, ids, rfl⟩ := (planClient_ok hmatched).mp hfirst
    obtain ⟨live, hlive, h⟩ := bind_eq_ok.mp h
    obtain rfl := liveMappers_planned.mp hlive
    obtain ⟨mappers, hmappers, h⟩ := bind_eq_ok.mp h
    obtain ⟨mapperPlan, hplan, h⟩ := bind_eq_ok.mp h
    obtain ⟨payloads, planning, rfl⟩ := planMapperSync_ok.mp hplan
    refine ⟨⟨payload, payloads⟩, ⟨hpayload, mappers, hmappers, planning.read⟩,
      ⟨single, ids, planning.distinct, planning.named, planning.ids⟩, ?_⟩
    exact (Except.ok.inj h).symm
  · rintro ⟨wanted, ⟨hpayload, mappers, hmappers, read⟩, ready, rfl⟩
    refine ⟨plannedClient floats s.clients wanted, ?_, ?_⟩
    · exact (planClient_ok hmatched).mpr ⟨wanted.payload, hpayload, ready.single, ready.ids, rfl⟩
    · refine bind_eq_ok.mpr ⟨_, liveMappers_planned.mpr rfl, bind_eq_ok.mpr ⟨mappers, hmappers, ?_⟩⟩
      refine bind_eq_ok.mpr ⟨_, planMapperSync_ok.mpr ⟨wanted.mappers, ?_, rfl⟩, rfl⟩
      exact ⟨read, ready.distinct, ready.named, ready.mapperIds⟩

/-- The document asks for these clients, and they are the managed ones. -/
structure AsksAll (desiredClients : Json) (wanted : List WantedClient) : Prop where
  read : ∃ desired, desiredClients = .arr desired ∧ List.Forall₂ Asks desired wanted
  inventory : matchesInventory (wanted.map fun w => clientIdOf w.payload) = true

theorem desiredIds_eq {desired : List Json} {wanted : List WantedClient}
    (h : List.Forall₂ Asks desired wanted) :
    desired.mapM desiredId = some (wanted.map fun w => clientIdOf w.payload) := by
  refine mapM_eq_some ?_
  rw [List.forall₂_map_right_iff]
  exact h.imp fun d w asks => desiredId_of_ok asks.payload

theorem clientId_mem_inventory {ids : List Text} (h : matchesInventory ids = true) {id : Text}
    (hid : id ∈ ids) : id ∈ clientIds.map text := by
  simp only [matchesInventory, Bool.and_eq_true, List.all_eq_true, List.any_eq_true, beq_iff_eq] at h
  obtain ⟨name, hname, rfl⟩ := h.1.1 id hid
  exact List.mem_map_of_mem hname

theorem nodup_of_inventory {ids : List Text} (h : matchesInventory ids = true) : ids.Nodup := by
  simp only [matchesInventory, Bool.and_eq_true, List.all_eq_true, beq_iff_eq,
    List.contains_iff_mem] at h
  have hnames : (clientIds.map text).Nodup := by decide +kernel
  have hsub : clientIds.map text ⊆ ids := by
    intro id hid
    obtain ⟨name, hname, rfl⟩ := List.mem_map.mp hid
    exact h.1.2 name hname
  have hlength : ids.length ≤ (clientIds.map text).length := by
    rw [List.length_map, h.2]
  exact ((List.subperm_of_subset hnames hsub).perm_of_length_le hlength).nodup_iff.mp hnames

theorem prepareClientSync_ok {s : Server} {desiredClients : Json} {plan : List ClientAction} :
    prepareClientSync floats desiredClients s = .ok plan ↔
      ∃ wanted, AsksAll desiredClients wanted ∧ (∀ w ∈ wanted, ClientReady floats s.clients w) ∧
        plan = wanted.map (plannedAction floats s.clients) := by
  have hmatched : ∀ {ids : List Text} {desired : List Json}, matchesInventory ids = true →
      desired.mapM desiredId = some ids → ∀ d ∈ desired, ∀ p, clientAdminPayload d = .ok p →
      (clientIds.map fun id => (text id, s.clientsWith (text id))).lookup (clientIdOf p) =
        some (s.clientsWith (clientIdOf p)) := by
    intro ids desired inventory hids d hd p hp
    obtain ⟨id, hid, hown⟩ := exists_of_mapM hids hd
    rw [desiredId_of_ok hp, Option.some.injEq] at hown
    exact lookup_map_text (clientId_mem_inventory inventory (hown ▸ hid))
  unfold prepareClientSync planClientSync
  constructor
  · intro h
    obtain ⟨first, hfirst, h⟩ := bind_eq_ok.mp h
    split at hfirst
    · rename_i desired _
      dsimp only at hfirst h
      split at hfirst
      · rename_i ids hids
        obtain ⟨inventory, hfirst⟩ := check_bind.mp hfirst
        have each := (forall₂_zip (Q := fun first d action =>
          withMapperPlan floats s first d = .ok action)).mp
          ⟨first, mapM_eq_ok.mp hfirst, mapM_eq_ok.mp h⟩
        obtain ⟨wanted, asks, ready, rfl⟩ := forall₂_map.mp ((forall₂_with_mem each).imp
          fun d action hd => (planned_ok (hmatched inventory hids d hd.1)).mp hd.2)
        refine ⟨wanted, ⟨⟨desired, rfl, asks⟩, ?_⟩, ready, rfl⟩
        rw [desiredIds_eq asks, Option.some.injEq] at hids
        exact hids ▸ inventory
      · cases hfirst
    · cases hfirst
  · rintro ⟨wanted, ⟨⟨desired, rfl, asks⟩, inventory⟩, ready, rfl⟩
    have hids := desiredIds_eq asks
    have each := (forall₂_with_mem (forall₂_map.mpr ⟨wanted, asks, ready, rfl⟩)).imp
      fun d action hd => (planned_ok (hmatched inventory hids d hd.1)).mpr hd.2
    obtain ⟨first, hfirst, hrest⟩ := (forall₂_zip (Q := fun first d action =>
      withMapperPlan floats s first d = .ok action)).mpr each
    refine bind_eq_ok.mpr ⟨first, ?_, mapM_eq_ok.mpr hrest⟩
    dsimp only
    rw [hids]
    exact check_bind.mpr ⟨inventory, mapM_eq_ok.mpr hfirst⟩

end KonnectFapi.Source.Keycloak

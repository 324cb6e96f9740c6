import KonnectFapi.Source.Deck.Verified

/-!
# The target script and the registration of plugin schemas

Source: scripts/wp1_target.py:719-784. The one command of this script that writes to the control
plane replaces or adds plugin schemas.
-/

namespace KonnectFapi.Source.Deck
open Lib Lib.Json
open Dialogue
open GatewayState (Gateway)
open SchemaPages (Response Sources requestSchemaPages entryOf joinNames)

/-! ## `sync_schemas` -/

/-- `[item for page in pages for item in page["items"]]`; every page of a listing has items. -/
def listedItems (pages : List Json) : List Json :=
  pages.flatMap fun page =>
    match page.get? (text "items") with
    | some (.arr items) => items
    | _ => []

/-- One pass over the inventory. -/
def takeItem (present : Sources) (item : Json) : Except Refused Sources := do
  require (isMapping item) "schema inventory contains a malformed item"
  let some (name, source) := entryOf item
    | fail "schema inventory item is missing a valid name or lua_schema"
  require (present.lookup name).isNone "duplicate schema name in CP inventory"
  return present ++ [(name, source)]

def readInventory (pages : List Json) : Except Refused Sources := do
  let present ← (listedItems pages).foldlM takeItem []
  require (present.all fun m => !m.1.isEmpty && !m.2.isEmpty) "schema inventory contains malformed source"
  return present

section
variable (x : Libraries)

/-- A schema that is missing, or hashes to something else. -/
def isChanged (present : Sources) (desired : Text × Text) : Except Refused Bool :=
  match present.lookup desired.1 with
  | none => .ok true
  | some source => do
    let want ← schemaHash x desired.2
    let got ← schemaHash x source
    return want != got

/-- `changed`, with its sources. -/
def changedSchemas (present : Sources) : Sources → Except Refused Sources
  | [] => .ok []
  | desired :: rest => do
    let changed ← isChanged x present desired
    let others ← changedSchemas present rest
    return if changed then desired :: others else others

/-- Whether a schema takes the place of an old one, and where it is sent. -/
def placeOf (url : Text) (present : Sources) (name : Text) : Bool × Text :=
  if (present.lookup name).isSome then (true, url ++ text "/" ++ name) else (false, url)

/-- A request that raises ends the script; whatever else is answered is not looked at. -/
def sendSchema (replaces : Bool) (url token source : Text) : Asking Unit := do
  match (← ask (.sendSchema replaces url token source) : Response) with
  | .raised => check (.error .raised)
  | .answered _ _ => return ()

def sendSchemas (url token : Text) (present : Sources) : Sources → Asking Unit
  | [] => return ()
  | desired :: rest => do
    let place := placeOf url present desired.1
    sendSchema place.1 place.2 token desired.2
    sendSchemas url token present rest

/-- The inventory of the control plane, and what of it has to change. -/
structure SchemaPlan where
  expected : Sources
  present : Sources
  changed : Sources

/-- The whole inventory is read and validated before any write. -/
def planSchemas (base : Text) (target : Dict) (token : Text) : Asking SchemaPlan := do
  let expected ← readPlugins pluginFiles
  let server : Nat → Response ← ask (.schemaPages (schemasUrl base target) token)
  let pages ← check (requestSchemaPages server).2
  let present ← check (readInventory pages)
  let changed ← check (changedSchemas x present expected)
  return ⟨expected, present, changed⟩

def synchronizedLine (changed : Sources) : Text :=
  text "Synchronized custom schema names: " ++
    if changed.isEmpty then text "already current" else joinNames (changed.map Prod.fst)

def syncSchemas (base : Text) (target : Dict) (token : Text) : Asking Unit := do
  let plan ← planSchemas x base target token
  sendSchemas (schemasUrl base target) token plan.present plan.changed
  ask (.write (synchronizedLine plan.changed))

/-! ## `main` -/

/-- The command line of the target script, and its environment. -/
structure TargetStart where
  operation : Operation
  gateway : Gateway
  stage : Option Text
  environ : List (Text × Text)

def TargetStart.approvesSchemas (s : TargetStart) : Bool :=
  s.environ.lookup (text "SCHEMA_SYNC_APPROVED") == some (text "YES")

/-- The token of a verified control plane. -/
def openTarget (info : ManifestInfo) : Asking Text := do
  let env ← readEnv ".env"
  let token := get env "KONNECT_TOKEN" []
  demand (!token.isEmpty) "KONNECT_TOKEN is required after local target validation"
  verifyRemoteTarget x (baseOf info) info.target token
  return token

/-- What the operations with a target do. -/
def operate (s : TargetStart) (info : ManifestInfo) : Asking Unit := do
  let token ← openTarget x info
  match s.operation with
  | .schemaCheck => checkSchemas x s.gateway (baseOf info) info.target token
  | .schemaSync => do
    demand s.approvesSchemas
      "schema sync is a separate Konnect write; set SCHEMA_SYNC_APPROVED=YES only after explicit approval"
    syncSchemas x (baseOf info) info.target token
  | _ => return ()

/-- `main` of the target script. -/
def targetMain (s : TargetStart) : Asking Unit := do
  let found ← localManifest x s.gateway s.stage s.operation
  if s.operation = .preflight ∨ s.operation = .validate then return ()
  else
    demand (!(decide (s.gateway = .api) && decide (s.operation = .schemaSync)))
      "API foundation must not register custom schemas"
    let some info := found | check (.error .raised)
    operate x s info

end

/-! ## What is changed -/

/-- Missing, or of another digest. -/
def Differs (x : Libraries) (present : Sources) (desired : Text × Text) : Prop :=
  ∀ source, present.lookup desired.1 = some source → schemaHash x desired.2 ≠ schemaHash x source

/-- Of the same digest. -/
def Current (x : Libraries) (present : Sources) (desired : Text × Text) : Prop :=
  ∃ source, present.lookup desired.1 = some source ∧ schemaHash x source = schemaHash x desired.2

theorem isChanged_eq_ok {x : Libraries} {present : Sources} {desired : Text × Text} {changed : Bool}
    (h : isChanged x present desired = .ok changed) :
    if changed then Differs x present desired else Current x present desired := by
  unfold isChanged at h
  split at h
  · rename_i missing
    obtain rfl := Except.ok.inj h
    intro source hsource
    rw [missing] at hsource
    cases hsource
  · rename_i source hsource
    obtain ⟨want, hwant, h1⟩ := bind_eq_ok.mp h
    obtain ⟨got, hgot, h2⟩ := bind_eq_ok.mp h1
    obtain rfl := Except.ok.inj h2
    split
    · rename_i differ
      intro other hother
      obtain rfl := Option.some.inj (hsource.symm.trans hother)
      rw [hwant, hgot]
      exact fun same => bne_iff_ne.mp differ (Except.ok.inj same)
    · rename_i same
      rw [Bool.not_eq_true, bne_eq_false_iff_eq] at same
      exact ⟨source, hsource, by rw [hwant, hgot, same]⟩

/-- The changed schemas, in the order of the files: those that differ and no others. -/
structure Changes (x : Libraries) (present expected changed : Sources) : Prop where
  sublist : changed.Sublist expected
  differ : ∀ desired ∈ changed, Differs x present desired
  current : ∀ desired ∈ expected, desired ∉ changed → Current x present desired

theorem changedSchemas_eq_ok {x : Libraries} {present expected changed : Sources}
    (h : changedSchemas x present expected = .ok changed) : Changes x present expected changed := by
  induction expected generalizing changed with
  | nil =>
    obtain rfl := Except.ok.inj h
    exact ⟨.slnil, by simp, by simp⟩
  | cons desired rest ih =>
    obtain ⟨differs, hdiffers, h1⟩ := bind_eq_ok.mp h
    obtain ⟨others, hothers, h2⟩ := bind_eq_ok.mp h1
    obtain rfl := Except.ok.inj h2
    obtain ⟨sublist, differ, current⟩ := ih hothers
    have here := isChanged_eq_ok hdiffers
    cases differs with
    | true =>
      refine ⟨sublist.cons_cons desired, List.forall_mem_cons.mpr ⟨here, differ⟩, ?_⟩
      intro other hother absent
      rcases List.mem_cons.mp hother with rfl | hother
      · exact absurd List.mem_cons_self absent
      · exact current other hother fun hmem => absent (List.mem_cons_of_mem _ hmem)
    | false =>
      refine ⟨sublist.cons desired, differ, ?_⟩
      exact List.forall_mem_cons.mpr ⟨fun _ => here, current⟩

/-- With the changed schemas in their places every schema is of the desired digest. -/
theorem Changes.settled {x : Libraries} {present expected changed : Sources}
    (h : Changes x present expected changed) (distinct : (expected.map Prod.fst).Nodup) :
    ∀ desired ∈ expected, Current x (amend present changed) desired := by
  intro desired hdesired
  have names : (changed.map Prod.fst).Nodup := distinct.sublist (h.sublist.map Prod.fst)
  unfold Current
  rw [lookup_amend names]
  cases hfound : changed.lookup desired.1 with
  | none =>
    refine h.current desired hdesired fun hmem => ?_
    rw [lookup_eq_some_of_mem names (show (desired.1, desired.2) ∈ changed from hmem)] at hfound
    cases hfound
  | some source =>
    have hmem : (desired.1, source) ∈ expected := h.sublist.subset (mem_of_lookup_eq_some hfound)
    have same := (lookup_eq_some_of_mem distinct hmem).symm.trans
      (lookup_eq_some_of_mem distinct (show (desired.1, desired.2) ∈ expected from hdesired))
    exact ⟨source, rfl, by rw [Option.some.inj same]⟩

/-! ## What is sent -/

section
variable {x : Libraries} {t : History} {q : Question} {url token : Text} {present : Sources}

/-- The request for one schema. -/
def sending (url token : Text) (present : Sources) (desired : Text × Text) : Question :=
  .sendSchema (placeOf url present desired.1).1 (placeOf url present desired.1).2 token desired.2

/-- The questions of a history. -/
def questions (t : History) : List Question := t.map Sigma.fst

theorem ran_sendSchema {replaces : Bool} {source : Text} {u : Unit}
    (h : Ran (sendSchema replaces url token source) t (.ok u)) :
    questions t = [.sendSchema replaces url token source] := by
  obtain ⟨response, asked, rest, rfl, hresponse, after1⟩ := ran_bind_ok.mp h
  obtain rfl := ran_question.mp hresponse
  cases response with
  | raised =>
    obtain ⟨-, hnever⟩ := ran_check.mp after1
    cases hnever
  | answered status body =>
    obtain ⟨rfl, -⟩ := ran_pure.mp after1
    rfl

theorem asks_sendSchema {replaces : Bool} {source : Text}
    (h : Asks (sendSchema replaces url token source) t q) :
    t = [] ∧ q = .sendSchema replaces url token source := by
  rcases asks_bind.mp h with hasks | ⟨response, _, _, -, -, after1⟩
  · exact asks_question.mp hasks
  · cases response with
    | raised => exact absurd after1 not_asks_check
    | answered status body => exact absurd after1 not_asks_pure

theorem ran_sendSchemas {changed : Sources} {u : Unit}
    (h : Ran (sendSchemas url token present changed) t (.ok u)) :
    questions t = changed.map (sending url token present) := by
  induction changed generalizing t with
  | nil =>
    obtain ⟨rfl, -⟩ := ran_pure.mp h
    rfl
  | cons desired rest ih =>
    obtain ⟨_, sent, later, rfl, hsent, after1⟩ := ran_bind_ok.mp h
    unfold questions
    rw [List.map_append, List.map_cons]
    exact congrArg₂ (· ++ ·) (ran_sendSchema hsent) (ih after1)

/-- The schemas are sent one after another, and each only after the ones before it. -/
theorem asks_sendSchemas {changed : Sources} (h : Asks (sendSchemas url token present changed) t q) :
    ∃ before desired after, changed = before ++ desired :: after ∧
      questions t = before.map (sending url token present) ∧ q = sending url token present desired := by
  induction changed generalizing t with
  | nil => exact absurd h not_asks_pure
  | cons desired rest ih =>
    rcases asks_bind.mp h with hasks | ⟨_, sent, later, rfl, hsent, after1⟩
    · obtain ⟨rfl, rfl⟩ := asks_sendSchema hasks
      exact ⟨[], desired, rest, rfl, rfl, rfl⟩
    · obtain ⟨before, next, after, rfl, hbefore, rfl⟩ := ih after1
      refine ⟨desired :: before, next, after, rfl, ?_, rfl⟩
      unfold questions at hbefore ⊢
      rw [List.map_append, hbefore]
      exact congrArg (· ++ _) (ran_sendSchema hsent)

end

end KonnectFapi.Source.Deck

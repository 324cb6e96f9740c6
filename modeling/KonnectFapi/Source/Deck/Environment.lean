import KonnectFapi.Lib.JsonTexts
import KonnectFapi.Source.Deck.Steps

/-!
# The environment of a process

Source: scripts/run-deck.py:491-507 and scripts/wp1_target.py:600-615. Every role value is a
text and is handed on under its own name; the token is handed on under another name only.
-/

namespace KonnectFapi.Source.Deck
open Lib Lib.Json
open Dialogue
open GatewayState (Gateway)

variable {x : Libraries} {s : Start} {session : Session} {t : History}

/-! ## Role values -/

/-- Role values as the script goes on with them. -/
structure RoleTexts (gateway : Gateway) (values : Dict) : Prop where
  distinct : (values.map Prod.fst).Nodup
  texts : ∀ name ∈ roleFields gateway, ∃ value, values.lookup (text name) = some (.str value)

theorem str_of_certificateDer {value : Json} {der : Bytes} (h : Ran (certificateDer value) t (.ok der)) :
    ∃ v, value = .str v := by
  cases value with
  | str v => exact ⟨v, rfl⟩
  | _ => exact absurd h not_ran_refuse

theorem strs_of_checkCertificates {values : Dict} {names : List String} {u : Unit}
    (h : Ran (checkCertificates values names) t (.ok u)) :
    ∀ name ∈ names, ∃ v, values.lookup (text name) = some (.str v) := by
  induction names generalizing t with
  | nil => exact fun name hname => absurd hname List.not_mem_nil
  | cons name rest ih =>
    obtain ⟨der, first, later, rfl, hder, hrest⟩ := ran_bind_ok.mp h
    apply List.forall_mem_cons.mpr ⟨_, ih hrest⟩
    obtain ⟨v, hv⟩ := str_of_certificateDer hder
    cases hlookup : values.lookup (text name) with
    | none =>
      rw [hlookup] at hv
      cases hv
    | some found =>
      rw [hlookup] at hv
      exact ⟨v, congrArg some hv⟩

theorem str_of_isKeyText {found : Option Json} (h : isKeyText found = true) : ∃ v, found = some (.str v) := by
  unfold isKeyText at h
  split at h
  · exact ⟨_, rfl⟩
  · cases h

theorem texts_of_validated {gateway : Gateway} {roleValues : Json} {values : Dict}
    (h : Ran (validateRoleValues gateway roleValues) t (.ok values)) :
    roleValues = .obj values ∧
      ∀ name ∈ roleFields gateway, ∃ value, values.lookup (text name) = some (.str value) := by
  unfold validateRoleValues at h
  split at h
  · rename_i found
    obtain ⟨_, nothing, rest, rfl, -, after1⟩ := ran_bind_ok.mp h
    obtain ⟨_, checked, rest, rfl, hcertificates, after2⟩ := ran_bind_ok.mp after1
    obtain ⟨_, nothing', rest, rfl, hkeys, after3⟩ := ran_bind_ok.mp after2
    obtain ⟨-, rfl⟩ := ran_pure.mp after3
    obtain ⟨-, keys⟩ := ran_demand.mp hkeys
    refine ⟨rfl, ?_⟩
    intro name hname
    rcases List.mem_append.mp hname with hname | hname
    · exact strs_of_checkCertificates hcertificates name hname
    · exact str_of_isKeyText (List.all_eq_true.mp keys name hname)
  · exact absurd h not_ran_refuse

/-- The names of an object are all different. -/
def DistinctNames (v : Json) : Prop := ∀ found, v = .obj found → (found.map Prod.fst).Nodup

theorem distinctNames_kept : Kept (fun found => some (.obj (dict found))) DistinctNames where
  null := by
    intro found h
    cases h
  bool := by
    intro b found h
    cases h
  int := by
    intro n found h
    cases h
  float := by
    intro literal found h
    cases h
  str := by
    intro s _ found h
    cases h
  arr := by
    intro items _ found h
    cases h
  obj := by
    intro members v hooked _ found hfound
    obtain rfl := Option.some.inj hooked
    obtain rfl := Json.obj.inj hfound
    exact nodup_dict members

theorem distinct_of_read {path : String} {requirePrivateMode : Bool} {values : Dict}
    (h : Ran (readPrivateRoleFile path requirePrivateMode) t (.ok (.obj values))) :
    (values.map Prod.fst).Nodup := by
  obtain ⟨read, asked, rest, rfl, -, after1⟩ := ran_bind_ok.mp h
  cases read with
  | unsafeDirectory | failed | unsuitable => exact absurd after1 not_ran_refuse
  | content raw =>
    obtain ⟨_, nothing, rest, rfl, -, after2⟩ := ran_bind_ok.mp after1
    split at after2
    · rename_i value hvalue
      obtain ⟨-, rfl⟩ := ran_pure.mp after2
      obtain ⟨t, hdecoded, hloaded⟩ := Option.bind_eq_some_iff.mp hvalue
      exact loads_kept distinctNames_kept (scalar_decodeUtf8 hdecoded) hloaded values rfl
    · exact absurd after2 not_ran_refuse

theorem roleTexts_of_ran {gateway : Gateway} {requirePrivateMode : Bool} {values : Dict}
    (h : Ran (askRoleValues gateway requirePrivateMode) t (.ok values)) : RoleTexts gateway values := by
  obtain ⟨roleValues, read, rest, rfl, hread, hvalidated⟩ := ran_bind_ok.mp h
  obtain ⟨rfl, texts⟩ := texts_of_validated hvalidated
  exact ⟨distinct_of_read hread, texts⟩

/-! ## The environment -/

theorem lookup_roleVariables {values : Dict} (h : (values.map Prod.fst).Nodup) (name : Text) :
    (roleVariables values).lookup name = (values.lookup name).bind str? := by
  induction values with
  | nil => rfl
  | cons m rest ih =>
    obtain ⟨fresh, hrest⟩ := List.nodup_cons.mp h
    obtain ⟨key, value⟩ := m
    have ih := ih hrest
    unfold roleVariables at ih ⊢
    rw [List.filterMap_cons, List.lookup_cons]
    by_cases hname : name = key
    · subst hname
      have absent : rest.lookup name = none := by
        rw [← Option.isNone_iff_eq_none, ← Option.isSome_eq_false_iff, ← Bool.not_eq_true]
        exact fun hsome => fresh (mem_names_iff.mpr hsome)
      rw [beq_self_eq_true, Option.bind_some]
      cases hvalue : str? value with
      | none =>
        rw [absent] at ih
        simpa [hvalue] using ih
      | some v => simp
    · rw [beq_eq_false_iff_ne.mpr hname]
      cases hvalue : str? value with
      | none => simpa [hvalue] using ih
      | some v =>
        simp only [Option.map_some, List.lookup_cons, beq_eq_false_iff_ne.mpr hname]
        exact ih

theorem nodup_roleVariables {values : Dict} (h : (values.map Prod.fst).Nodup) :
    ((roleVariables values).map Prod.fst).Nodup := by
  have sub : ((roleVariables values).map Prod.fst).Sublist (values.map Prod.fst) := by
    unfold roleVariables
    induction values with
    | nil => exact List.Sublist.slnil
    | cons m rest ih =>
      rw [List.filterMap_cons]
      cases hvalue : str? m.2 with
      | none =>
        simp only [Option.map_none]
        exact (ih (List.nodup_cons.mp h).2).cons _
      | some v =>
        simp only [Option.map_some, List.map_cons]
        exact (ih (List.nodup_cons.mp h).2).cons_cons _
  exact h.sublist sub

/-- The names that the script sets itself. -/
def ownVariables (session : Session) : List (Text × Text) :=
  [(text "DECK_KONNECT_TOKEN", session.token), (text "KONNECT_SERVER_URL", session.base),
    (text "KONNECT_CONTROL_PLANE_NAME", targetText session.target "control_plane_name")]

theorem lookup_filter_ne {found : List (Text × Text)} {name excluded : Text} :
    (found.filter fun m => m.1 != excluded).lookup name =
      if name = excluded then none else found.lookup name := by
  induction found with
  | nil => simp
  | cons m rest ih =>
    by_cases hexcluded : m.1 = excluded
    · rw [List.filter_cons_of_neg (by simpa using hexcluded), ih, List.lookup_cons]
      by_cases hname : name = excluded
      · rw [if_pos hname, if_pos hname]
      · rw [if_neg hname, if_neg hname, beq_eq_false_iff_ne.mpr (by rwa [hexcluded])]
    · rw [List.filter_cons_of_pos (by simpa using hexcluded), List.lookup_cons, List.lookup_cons, ih]
      by_cases hname : name = m.1
      · subst hname
        simp [hexcluded]
      · rw [beq_eq_false_iff_ne.mpr hname]

theorem lookup_environment (h : (session.prepared.roleValues.map Prod.fst).Nodup) (name : Text) :
    (session.environment s).lookup name =
      if name = text "KONNECT_TOKEN" then none
      else ((ownVariables session).lookup name).or
        (((session.prepared.roleValues.lookup name).bind str?).or
          ((amend s.environ session.generated).lookup name)) := by
  have own : ((ownVariables session).map Prod.fst).Nodup := by
    change [text "DECK_KONNECT_TOKEN", text "KONNECT_SERVER_URL", text "KONNECT_CONTROL_PLANE_NAME"].Nodup
    decide +kernel
  unfold Session.environment
  dsimp only
  rw [lookup_filter_ne]
  change (if _ then none else (amend _ (ownVariables session)).lookup name) = _
  rw [lookup_amend own, lookup_amend (nodup_roleVariables h), lookup_roleVariables h]

/-- A role value stands in the environment under its own name. -/
theorem environment_role {gateway : Gateway} (values : RoleTexts gateway session.prepared.roleValues)
    {name : String} (h : name ∈ roleFields gateway) :
    (session.environment s).lookup (text name) = (session.prepared.roleValues.lookup (text name)).bind str? := by
  have foreign : ∀ gateway, ∀ name ∈ roleFields gateway, text name ≠ text "KONNECT_TOKEN" ∧
      text name ∉ [text "DECK_KONNECT_TOKEN", text "KONNECT_SERVER_URL", text "KONNECT_CONTROL_PLANE_NAME"] := by
    intro gateway
    cases gateway <;> decide +kernel
  obtain ⟨hname, hforeign⟩ := foreign gateway name h
  have absent : (ownVariables session).lookup (text name) = none := by
    rw [← Option.isNone_iff_eq_none, ← Option.isSome_eq_false_iff, ← Bool.not_eq_true]
    exact fun hsome => hforeign (mem_names_iff.mpr hsome)
  obtain ⟨value, hvalue⟩ := values.texts name h
  rw [lookup_environment values.distinct, if_neg hname, absent, hvalue]
  rfl

end KonnectFapi.Source.Deck

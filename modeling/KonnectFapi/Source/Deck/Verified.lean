import KonnectFapi.Source.Deck.Reviews

/-!
# What the script has verified before any process

Source: scripts/run-deck.py:443-500 and scripts/wp1_target.py:102-140, 539-555 and 704-718.
-/

namespace KonnectFapi.Source.Deck
open Lib Lib.Json
open Dialogue
open GatewayState (Gateway File validateFoundationState)
open SchemaPages (Response Sources requestSchemaPages collectSchemaPages)

variable {x : Libraries} {s : Start} {session : Session} {t : History}

/-! ## The manifest -/

/-- A manifest that was read and accepted. -/
def ManifestRead (x : Libraries) (gateway : Gateway) (t : History) (info : ManifestInfo) : Prop :=
  ∃ (read : Text) (document : Json) (config : List (Text × Text)),
    ⟨.readText manifestPath, .content read⟩ ∈ t ∧ parseJson read = .ok document ∧
      checkManifest x.py gateway document config = .ok info

/-- A manifest with the foundation of its gateway. -/
structure Bounded (x : Libraries) (s : Start) (t : History) (info : ManifestInfo) : Prop where
  selected : isStage (some s.stage) "foundation" || isStage (some s.stage) "runtime"
  foundation : ∃ file : File, ⟨.yaml (foundationFile s.gateway), file⟩ ∈ t ∧
    validateFoundationState s.gateway file = .ok ()
  manifest : ManifestRead x s.gateway t info

theorem foundation_of_ran {gateway : Gateway} {stage : Option Text} {operation : Operation} {u : Unit}
    (h : Ran (askStates gateway stage operation) t (.ok u)) :
    ∃ file : File, ⟨.yaml (foundationFile gateway), file⟩ ∈ t ∧
      validateFoundationState gateway file = .ok () := by
  obtain ⟨file, asked, rest, rfl, hfile, after1⟩ := ran_bind_ok.mp h
  obtain rfl := ran_question.mp hfile
  obtain ⟨_, nothing, rest, rfl, hvalid, after2⟩ := ran_bind_ok.mp after1
  obtain ⟨rfl, valid⟩ := ran_check.mp hvalid
  exact ⟨file, by simp, valid⟩

theorem manifest_of_ran {gateway : Gateway} {info : ManifestInfo}
    (h : Ran (askManifest x gateway) t (.ok info)) : ManifestRead x gateway t info := by
  obtain ⟨found, asked, rest, rfl, hfound, after1⟩ := ran_bind_ok.mp h
  obtain rfl := ran_question.mp hfound
  obtain ⟨_, nothing, rest, rfl, -, after2⟩ := ran_bind_ok.mp after1
  obtain ⟨read, asked, rest, rfl, hread, after3⟩ := ran_bind_ok.mp after2
  obtain rfl := ran_question.mp hread
  cases read with
  | missing | failed =>
    obtain ⟨-, hnever⟩ := ran_check.mp after3
    cases hnever
  | content read =>
    obtain ⟨document, nothing, rest, rfl, hparsed, after4⟩ := ran_bind_ok.mp after3
    obtain ⟨-, parsed⟩ := ran_check.mp hparsed
    obtain ⟨config, asked, rest, rfl, -, after5⟩ := ran_bind_ok.mp after4
    obtain ⟨-, checked⟩ := ran_check.mp after5
    exact ⟨read, document, config, by simp, parsed, checked⟩

theorem bounded_of_ran {info : ManifestInfo} (h : Ran (askInfo x s) t (.ok info)) :
    Bounded x s t info := by
  obtain ⟨found, manifest, rest, rfl, hmanifest, after1⟩ := ran_bind_ok.mp h
  cases found with
  | none =>
    obtain ⟨-, hnever⟩ := ran_check.mp after1
    cases hnever
  | some found =>
    obtain ⟨rfl, rfl⟩ := ran_pure.mp after1
    obtain ⟨_, nothing, rest, rfl, hselected, after2⟩ := ran_bind_ok.mp hmanifest
    obtain ⟨rfl, selected⟩ := ran_check.mp hselected
    obtain ⟨_, states, rest, rfl, hstates, after3⟩ := ran_bind_ok.mp after2
    obtain ⟨file, hfile, valid⟩ := foundation_of_ran hstates
    have asked : Ran (askManifest x s.gateway) rest (.ok info) ∧
        (isStage (some s.stage) "foundation" || isStage (some s.stage) "runtime") = true := by
      cases hmode : s.mode with
      | diff | sync =>
        rw [hmode] at after3 selected
        obtain ⟨read, asked, nothing, rfl, hread, after4⟩ := ran_bind_ok.mp after3
        obtain ⟨rfl, hinfo⟩ := ran_pure.mp after4
        obtain rfl := Option.some.inj hinfo
        rw [List.append_nil]
        exact ⟨hread, require_eq_ok.mp selected⟩
    obtain ⟨read, document, config, hread, parsed, checked⟩ := manifest_of_ran asked.1
    exact ⟨asked.2, ⟨file, by simp [hfile], valid⟩, read, document, config, by simp [hread], parsed, checked⟩

/-! ## The control plane -/

/-- The control plane has answered under the id, the name and the endpoints of the target. -/
def ControlPlane (x : Libraries) (t : History) (base : Text) (target : Dict) (token : Text) : Prop :=
  ∃ response remote, ⟨.request (controlPlaneUrl base target) token, .answered 200 response⟩ ∈ t ∧
    remoteData response = .ok remote ∧ matchesTarget x target remote = true

/-- The plugin schemas of the control plane are the local ones. -/
def SchemasCurrent (x : Libraries) (t : History) (base : Text) (target : Dict) (token : Text) : Prop :=
  ∃ server pages observed, ⟨.schemaPages (schemasUrl base target) token, server⟩ ∈ t ∧
    (requestSchemaPages server).2 = .ok pages ∧
    collectSchemaPages pages (pluginFiles.map fun plugin => text plugin.1) = .ok observed ∧
    ∀ plugin ∈ pluginFiles, ∃ source digest, ⟨.readText plugin.2, .content source⟩ ∈ t ∧
      schemaHash x source = .ok digest ∧
      schemaHash x ((observed.lookup (text plugin.1)).getD []) = .ok digest

theorem controlPlane_of_ran {base token : Text} {target : Dict} {u : Unit}
    (h : Ran (verifyRemoteTarget x base target token) t (.ok u)) : ControlPlane x t base target token := by
  obtain ⟨answer, asked, rest, rfl, hanswer, after1⟩ := ran_bind_ok.mp h
  obtain rfl := ran_question.mp hanswer
  obtain ⟨rfl, checked⟩ := ran_check.mp after1
  cases answer with
  | raised => cases checked
  | answered status response =>
    obtain ⟨remote, hremote, hsame⟩ := bind_eq_ok.mp checked
    have same := require_eq_ok.mp hsame
    rw [Bool.and_eq_true, beq_iff_eq] at same
    obtain ⟨rfl, same⟩ := same
    exact ⟨response, remote, by simp, hremote, same⟩

theorem plugins_of_ran {plugins : List (String × String)} {sources : Sources}
    (h : Ran (readPlugins plugins) t (.ok sources)) :
    List.Forall₂ (fun plugin source => source.1 = text plugin.1 ∧
      ⟨.readText plugin.2, .content source.2⟩ ∈ t) plugins sources := by
  induction plugins generalizing t sources with
  | nil =>
    obtain ⟨-, rfl⟩ := ran_pure.mp h
    exact .nil
  | cons plugin rest ih =>
    obtain ⟨source, asked, later, rfl, hread, after1⟩ := ran_bind_ok.mp h
    obtain ⟨others, more, nothing, rfl, hmore, after2⟩ := ran_bind_ok.mp after1
    obtain ⟨rfl, rfl⟩ := ran_pure.mp after2
    obtain ⟨answer, read, nothing, rfl, hanswer, after3⟩ := ran_bind_ok.mp hread
    obtain rfl := ran_question.mp hanswer
    cases answer with
    | missing | failed =>
      obtain ⟨-, hnever⟩ := ran_check.mp after3
      cases hnever
    | content found =>
      obtain ⟨rfl, rfl⟩ := ran_pure.mp after3
      refine .cons ⟨rfl, by simp⟩ ((ih hmore).imp ?_)
      rintro plugin source ⟨hname, hmem⟩
      exact ⟨hname, by simp [hmem]⟩

/-- The names of sources that were read for the plugin files. -/
theorem names_of_files {sources : Sources}
    (h : List.Forall₂ (fun plugin source => source.1 = text plugin.1 ∧
      ⟨.readText plugin.2, .content source.2⟩ ∈ t) pluginFiles sources) :
    sources.map Prod.fst = pluginFiles.map (fun plugin => text plugin.1) ∧ (sources.map Prod.fst).Nodup := by
  have names : sources.map Prod.fst = pluginFiles.map fun plugin => text plugin.1 :=
    (map_eq_of_forall₂ (h.imp fun plugin source found => found.1.symm)).symm
  refine ⟨names, ?_⟩
  rw [names]
  decide +kernel

theorem hashes_of_compared {expected observed : Sources} {names : List Text}
    {hashes : List (Text × Text)} (h : compareHashes x expected observed names = .ok hashes) :
    ∀ name ∈ names, ∃ digest, schemaHash x ((expected.lookup name).getD []) = .ok digest ∧
      schemaHash x ((observed.lookup name).getD []) = .ok digest := by
  induction names generalizing hashes with
  | nil => exact fun name hname => absurd hname List.not_mem_nil
  | cons name rest ih =>
    obtain ⟨want, hwant, h1⟩ := bind_eq_ok.mp h
    obtain ⟨got, hgot, h2⟩ := bind_eq_ok.mp h1
    split at h2
    · rename_i same
      obtain ⟨others, hothers, -⟩ := bind_eq_ok.mp h2
      apply List.forall_mem_cons.mpr ⟨⟨want, hwant, ?_⟩, ih hothers⟩
      rw [same]
      exact hgot
    · cases h2

theorem schemasCurrent_of_ran {base token : Text} {target : Dict} {u : Unit}
    (h : Ran (checkSchemas x .thirdParty base target token) t (.ok u)) :
    SchemasCurrent x t base target token := by
  obtain ⟨expected, read, rest, rfl, hread, after1⟩ := ran_bind_ok.mp h
  obtain ⟨server, asked, rest, rfl, hserver, after2⟩ := ran_bind_ok.mp after1
  obtain rfl := ran_question.mp hserver
  obtain ⟨pages, nothing, rest, rfl, hpages, after3⟩ := ran_bind_ok.mp after2
  obtain ⟨-, paged⟩ := ran_check.mp hpages
  obtain ⟨observed, nothing', rest, rfl, hobserved, after4⟩ := ran_bind_ok.mp after3
  obtain ⟨-, collected⟩ := ran_check.mp hobserved
  obtain ⟨hashes, nothing'', rest, rfl, hhashes, -⟩ := ran_bind_ok.mp after4
  obtain ⟨-, hcompared⟩ := ran_check.mp hhashes
  obtain ⟨-, compared⟩ := require_bind.mp hcompared
  have sources := plugins_of_ran hread
  obtain ⟨names, distinct⟩ := names_of_files sources
  refine ⟨server, pages, observed, by simp, paged, by rw [← names]; exact collected, ?_⟩
  intro plugin hplugin
  obtain ⟨source, hsource, hname, hmem⟩ := exists_of_mem_left sources hplugin
  have hlookup := lookup_eq_some_of_mem distinct (show (source.1, source.2) ∈ expected from hsource)
  have hsorted : source.1 ∈ sortOn id (expected.map Prod.fst) :=
    mem_sortOn.mpr (List.mem_map_of_mem hsource)
  obtain ⟨digest, hwant, hgot⟩ := hashes_of_compared compared source.1 hsorted
  rw [hlookup, Option.getD_some] at hwant
  rw [hname] at hgot
  exact ⟨source.2, digest, by simp [hmem], hwant, hgot⟩

/-- What is verified before any process: the token opens the control plane that the manifest
names, and, for the third-party gateway, its plugin schemas are current. -/
structure Connected (x : Libraries) (s : Start) (t : History) (info : ManifestInfo) (token : Text) :
    Prop where
  given : token ≠ []
  controlPlane : ControlPlane x t (baseOf info) info.target token
  schemas : s.gateway = .thirdParty → SchemasCurrent x t (baseOf info) info.target token

theorem connected_of_ran {prepared : Prepared} {token : Text}
    (h : Ran (connect x s prepared) t (.ok token)) : Connected x s t prepared.info token := by
  obtain ⟨config, read, rest, rfl, -, after1⟩ := ran_bind_ok.mp h
  obtain ⟨_, nothing, rest, rfl, htoken, after2⟩ := ran_bind_ok.mp after1
  obtain ⟨rfl, given⟩ := ran_demand.mp htoken
  obtain ⟨_, asked, rest, rfl, hverified, after3⟩ := ran_bind_ok.mp after2
  have controlPlane := controlPlane_of_ran hverified
  have whole : ∀ {later : History}, ControlPlane x asked (baseOf prepared.info) prepared.info.target
        (get config "KONNECT_TOKEN" []) →
      ControlPlane x (read ++ ([] ++ (asked ++ later))) (baseOf prepared.info) prepared.info.target
        (get config "KONNECT_TOKEN" []) := by
    rintro later ⟨response, remote, hmem, hremote⟩
    exact ⟨response, remote, by simp [hmem], hremote⟩
  have nonempty : get config "KONNECT_TOKEN" [] ≠ [] := by
    intro hempty
    rw [hempty] at given
    cases given
  cases hgateway : s.gateway with
  | api =>
    rw [hgateway] at after3
    obtain ⟨_, ca, rest, rfl, -, after4⟩ := ran_bind_ok.mp after3
    obtain ⟨_, schemas, rest, rfl, -, after5⟩ := ran_bind_ok.mp after4
    obtain ⟨-, rfl⟩ := ran_pure.mp after5
    refine ⟨nonempty, whole controlPlane, ?_⟩
    intro hthird
    rw [hgateway] at hthird
    cases hthird
  | thirdParty =>
    rw [hgateway] at after3
    obtain ⟨_, schemas, rest, rfl, hschemas, after4⟩ := ran_bind_ok.mp after3
    obtain ⟨-, rfl⟩ := ran_pure.mp after4
    refine ⟨nonempty, whole controlPlane, ?_⟩
    intro _
    obtain ⟨server, pages, observed, hserver, hpages, hobserved, hplugins⟩ := schemasCurrent_of_ran hschemas
    refine ⟨server, pages, observed, by simp [hserver], hpages, hobserved, ?_⟩
    intro plugin hplugin
    obtain ⟨source, digest, hsource, hsame⟩ := hplugins plugin hplugin
    exact ⟨source, digest, by simp [hsource], hsame⟩

end KonnectFapi.Source.Deck

import KonnectFapi.Source.Readiness.Marker
import KonnectFapi.Source.Readiness.Output

/-!
# When a worker takes a marker

Source: kong/plugins/fapi-as-mtls-transport/handler.lua:527-577, on the marker of an accepted
capture.
-/

namespace KonnectFapi.Source.Readiness
open Lib Lib.Lua Lib.Json Transport

variable {floats : FloatEquality} {digits : Digits} {host : Host}

theorem validate_accepted {lines : List Text} {expectedGeneration : Text} {accepted : Accepted}
    (h : validate floats digits lines expectedGeneration = some accepted) :
    ∃ snapshot, lines.foldlM (readLine digits) {} = some snapshot ∧
      Vetted snapshot accepted ∧ accepted.generation = expectedGeneration := by
  obtain ⟨snapshot, hsnapshot, hrows⟩ := Option.bind_eq_some_iff.mp h
  exact ⟨snapshot, hsnapshot, validateRows_accepted hrows⟩

theorem accepted_sound {lines : List Text} {expectedGeneration : Text} {accepted : Accepted}
    (h : validate floats digits lines expectedGeneration = some accepted) : accepted.Sound := by
  obtain ⟨snapshot, hsnapshot, hrows⟩ := Option.bind_eq_some_iff.mp h
  apply (validateRows_accepted hrows).1.sound (snapshot_pids hsnapshot)
  unfold validateRows at hrows
  obtain ⟨generation, -, hrows⟩ := Option.bind_eq_some_iff.mp hrows
  obtain ⟨hexpected, -⟩ := guard_bind.mp hrows
  simp only [Bool.and_eq_true, Bool.not_eq_true', List.isEmpty_eq_false_iff] at hexpected
  exact hexpected.1.2

/-- When a worker takes a marker as covering it. -/
structure Trusts (s : State) (accepted : Accepted) : Prop where
  configured : s.statusConfigValid ≠ some false
  exported : s.statusExportFailed = false
  generation : encodeUtf8 accepted.generation = s.startupGeneration
  configHash : encodeUtf8 accepted.configHash = s.configHash
  named : ∃ w ∈ accepted.current, Identifies s w
  short : (canonical accepted.marker).length ≤ maxReadyMarkerBytes
  few : accepted.current.length ≤ maxWorkers
  separate : (accepted.current.map (·.pid)).Nodup

theorem equalsText_str {t : Bytes} {expected : Option Bytes} :
    equalsText (.str t) expected = true ↔ some t = expected := by
  cases expected with
  | none => simp [equalsText, Value.isNil]
  | some e => simp [equalsText]

/-- The names of the marker. -/
def markerFields : List String := ["generation", "config_hash", "workers"]

/-- What a decoded marker has under its three names. -/
theorem marker_decoded {accepted : Accepted} {value : Value} (h : DecodesTo accepted.marker value) :
    hasExactKeys value (markerFields.map ascii) = true ∧
      (∃ t, encodeUtf8 accepted.generation = some t ∧ value.field "generation" = .str t) ∧
      (∃ t, encodeUtf8 accepted.configHash = some t ∧ value.field "config_hash" = .str t) ∧
      DecodesTo (.arr (accepted.workers.map CurrentWorker.json)) (value.field "workers") := by
  have plain := encode_ascii markerFields (by decide +kernel)
  have hnodup : (markerFields.map text).Nodup := by decide +kernel
  have hobject := DecodesTo.inv_obj h hnodup
  refine ⟨hasExactKeys_of_object markerFields rfl plain hobject, ?_, ?_, ?_⟩
  · exact DecodesTo.inv_str (field_of_object hobject List.mem_cons_self
      (plain "generation" (by simp [markerFields])))
  · exact DecodesTo.inv_str (field_of_object hobject (List.mem_cons_of_mem _ List.mem_cons_self)
      (plain "config_hash" (by simp [markerFields])))
  · exact field_of_object hobject
      (List.mem_cons_of_mem _ (List.mem_cons_of_mem _ List.mem_cons_self))
      (plain "workers" (by simp [markerFields]))

theorem covers_iff {s : State} {accepted : Accepted} {value : Value} (sound : accepted.Sound)
    (hdir : s.statusDir = some statusDirectory)
    (hvalue : host.cjsonDecode (canonical accepted.marker) = some value)
    (mirrors : DecodesTo accepted.marker value) :
    readyMarkerCoversWorker host s (some (canonical accepted.marker)) = true ↔
      Trusts s accepted := by
  obtain ⟨hkeys, ⟨generation, hgeneration, hgenerationField⟩, ⟨configHash, hhash, hhashField⟩,
    hworkers⟩ := marker_decoded mirrors
  obtain ⟨-, -, hworkersTable, -⟩ := DecodesTo.inv_arr hworkers
  have hloop := coversLoop_marker (s := s) sound hworkers
  have hlimited : readLimited (some (canonical accepted.marker)) maxReadyMarkerBytes =
      if maxReadyMarkerBytes < (canonical accepted.marker).length then none
      else some (canonical accepted.marker) := by
    have hsome : ¬ (canonical accepted.marker).length = 0 := by
      rw [List.length_eq_zero_iff]
      exact marker_ne_nil accepted
    unfold readLimited
    dsimp only
    simp only [hsome, false_or]
  unfold readyMarkerCoversWorker
  rw [hdir]
  dsimp only
  constructor
  · intro h
    split at h
    · cases h
    · rename_i hstate
      simp only [Bool.or_eq_true, decide_eq_true_eq, beq_iff_eq, not_or, ne_eq, not_true_eq_false,
        Bool.not_eq_true, not_false_eq_true, true_and] at hstate
      obtain ⟨⟨⟨-, -⟩, hconfigured⟩, hexported⟩ := hstate
      rw [hlimited] at h
      by_cases hshort : maxReadyMarkerBytes < (canonical accepted.marker).length
      · rw [if_pos hshort] at h
        cases h
      · rw [if_neg hshort, Option.bind_some, hvalue] at h
        dsimp only at h
        split at h
        · cases h
        · rename_i hfields
          rw [hgenerationField, hhashField] at hfields
          simp only [Bool.or_eq_true, Bool.not_eq_true', not_or, Bool.not_eq_false,
            equalsText_str] at hfields
          obtain ⟨⟨⟨-, hstartup⟩, hconfig⟩, -⟩ := hfields
          obtain ⟨hfew, hseparate, hnamed⟩ := hloop.mp h
          exact ⟨hconfigured, hexported, hgeneration.trans hstartup, hhash.trans hconfig, hnamed,
            by omega, hfew, hseparate⟩
  · intro trusts
    obtain ⟨w, hw, hnames⟩ := trusts.named
    have hconfig := hhash.symm.trans trusts.configHash
    have hstartup := hgeneration.symm.trans trusts.generation
    have hepoch : s.registryEpoch.isSome = true := by
      obtain ⟨bytes, hbytes⟩ := encoded_of_hex (sound.epochs w hw)
      rw [← hnames.epoch, hbytes]
      rfl
    rw [if_neg, hlimited, if_neg (by have := trusts.short; omega), Option.bind_some, hvalue]
    · dsimp only
      rw [if_neg]
      · exact hloop.mpr ⟨trusts.few, trusts.separate, trusts.named⟩
      · rw [hgenerationField, hhashField, hworkersTable]
        simp only [Bool.or_eq_true, Bool.not_eq_true', not_or, Bool.not_eq_false, equalsText_str,
          Bool.not_true, Bool.false_eq_true, not_false_eq_true, and_true]
        exact ⟨⟨hkeys, hstartup⟩, hconfig⟩
    · rw [← hconfig]
      simp [Option.isSome_iff_ne_none.mp hepoch, trusts.configured, trusts.exported]

/-- A marker that covers a worker of the status directory is there and is decoded. -/
theorem decoded_of_covers {s : State} {marker : Option Bytes} (hdir : s.statusDir = some statusDirectory)
    (h : readyMarkerCoversWorker host s marker = true) :
    ∃ content value, marker = some content ∧ host.cjsonDecode content = some value := by
  unfold readyMarkerCoversWorker at h
  rw [hdir] at h
  dsimp only at h
  split at h
  · cases h
  · split at h
    · cases h
    · rename_i value hvalue
      obtain ⟨content, hcontent, hdecode⟩ := Option.bind_eq_some_iff.mp hvalue
      unfold readLimited at hcontent
      split at hcontent
      · split at hcontent
        · cases hcontent
        · obtain rfl := Option.some.inj hcontent
          exact ⟨_, value, rfl, hdecode⟩
      · cases hcontent

end KonnectFapi.Source.Readiness

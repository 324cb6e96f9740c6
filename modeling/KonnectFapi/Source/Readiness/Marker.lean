import KonnectFapi.Lib.JsonLua
import KonnectFapi.Lib.Refusal
import KonnectFapi.Source.Readiness.Accepted
import KonnectFapi.Source.Transport.Status
import Mathlib.Algebra.Order.Ring.Rat
import Mathlib.Data.Int.Cast.Lemmas
import Mathlib.Data.Nat.Cast.Order.Ring

/-!
# The marker as a worker reads it

Source: scripts/require-wp5-readiness.sh:229-246; handler.lua:509-577. What the decoder
makes of the printed marker, and what the loop over its workers answers.
-/

namespace KonnectFapi.Source.Readiness
open Lib Lib.Lua Transport

/-! ## The loop over the workers -/

/-- A worker of the marker as the handler takes it. -/
structure MarkerWorker where
  workerId : Rat
  pid : Rat
  epoch : Bytes

/-- The element under a key reads as a worker. -/
structure ReadsAs (e : Key × Value) (w : MarkerWorker) : Prop where
  index : ∃ i : Nat, 1 ≤ i ∧ e.1 = .num (i : Rat)
  keys : hasExactKeys e.2 [ascii "worker_id", ascii "pid", ascii "registry_epoch"] = true
  workerId : wholeAtLeast 0 (e.2.field "worker_id") = some w.workerId
  pid : wholeAtLeast 1 (e.2.field "pid") = some w.pid
  epoch : e.2.field "registry_epoch" = .str w.epoch
  filled : w.epoch ≠ []

/-- The element is the worker itself. -/
def isSelf (s : State) (w : MarkerWorker) : Bool :=
  s.workerId.map (fun n => (n : Rat)) == some w.workerId &&
    s.pid.map (fun n => (n : Rat)) == some w.pid && s.registryEpoch == some w.epoch

/-- Every key is in range. -/
def InRange (entries : Table) : Prop := ∀ e ∈ entries, ∀ i : Nat, e.1 = .num (i : Rat) → i ≤ maxWorkers

theorem inRange_cons {e : Key × Value} {rest : Table} {i : Nat} (h : e.1 = .num (i : Rat)) :
    InRange (e :: rest) ↔ i ≤ maxWorkers ∧ InRange rest := by
  constructor
  · intro hrange
    exact ⟨hrange e List.mem_cons_self i h, fun other hother => hrange other (List.mem_cons_of_mem _ hother)⟩
  · intro hrange other hother j hj
    rcases List.mem_cons.mp hother with rfl | hother
    · have hsame : i = j := Nat.cast_injective (Key.num.inj (h.symm.trans hj))
      omega
    · exact hrange.2 other hother j hj

theorem fresh_cons {α β : Type} {f : α → β} {taken : List β} {w : α} {more : List α} :
    (((w :: more).map f).Nodup ∧ ∀ other ∈ w :: more, f other ∉ taken) ↔
      f w ∉ taken ∧ (more.map f).Nodup ∧ ∀ other ∈ more, f other ∉ f w :: taken := by
  rw [List.map_cons, List.nodup_cons, List.forall_mem_cons]
  constructor
  · rintro ⟨⟨hw, hmore⟩, hnew, hothers⟩
    refine ⟨hnew, hmore, fun other hother hmem => ?_⟩
    rcases List.mem_cons.mp hmem with hsame | htaken
    · exact hw (hsame ▸ List.mem_map_of_mem hother)
    · exact hothers other hother htaken
  · rintro ⟨hnew, hmore, hothers⟩
    refine ⟨⟨fun hmem => ?_, hmore⟩, hnew, fun other hother htaken => ?_⟩
    · obtain ⟨other, hother, hsame⟩ := List.mem_map.mp hmem
      exact hothers other hother (hsame ▸ List.mem_cons_self)
    · exact hothers other hother (List.mem_cons_of_mem _ htaken)

/-- The loop answers true exactly when no key, count, id or process id is refused and the
worker was met. -/
theorem coversLoop_iff {s : State} {entries : Table} {workers : List MarkerWorker}
    (reads : List.Forall₂ ReadsAs entries workers) {count : Nat} {workerIds pids : List Rat}
    {foundSelf : Bool} :
    coversLoop s entries count workerIds pids foundSelf = true ↔
      InRange entries ∧ (entries ≠ [] → count + entries.length ≤ maxWorkers) ∧
        (workers.map (·.workerId)).Nodup ∧ (∀ w ∈ workers, w.workerId ∉ workerIds) ∧
        (workers.map (·.pid)).Nodup ∧ (∀ w ∈ workers, w.pid ∉ pids) ∧
        0 < count + entries.length ∧ (foundSelf = true ∨ ∃ w ∈ workers, isSelf s w = true) := by
  induction reads generalizing count workerIds pids foundSelf with
  | nil => simp [coversLoop, InRange]
  | @cons e w rest more head _ ih =>
    obtain ⟨⟨i, hpos, hindex⟩, hkeys, hid, hpid, hepoch, hfilled⟩ := head
    obtain ⟨key, worker⟩ := e
    dsimp only at hindex hkeys hid hpid hepoch
    subst hindex
    have hden : ((i : Rat)).den = 1 := Rat.den_natCast i
    have hcast : ((maxWorkers : Rat) < (i : Rat)) ↔ maxWorkers < i := Nat.cast_lt
    have hone : ¬ ((i : Rat) < 1) := by
      have : ¬ i < 1 := by omega
      exact_mod_cast this
    have hself : foundSelf = true ∨ (∃ other ∈ w :: more, isSelf s other = true) ↔
        (foundSelf || isSelf s w) = true ∨ ∃ other ∈ more, isSelf s other = true := by
      simp [or_assoc]
    rw [inRange_cons rfl, hself, coversLoop]
    simp only [hden, ne_eq, not_true_eq_false, false_or, hone, hcast, hkeys, hid, hpid, hepoch,
      Bool.not_true, Bool.or_false, decide_eq_true_eq]
    by_cases hrange : maxWorkers < i
    · simp [hrange]
    · rw [if_neg hrange]
      by_cases hcount : maxWorkers < count + 1
      · rw [if_pos hcount]
        simp only [Bool.false_eq_true, false_iff]
        rintro ⟨-, hbound, -⟩
        have := hbound (List.cons_ne_nil _ _)
        rw [List.length_cons] at this
        omega
      · rw [if_neg hcount]
        by_cases hseen : w.workerId ∈ workerIds
        · simp [hseen]
        · by_cases hpids : w.pid ∈ pids
          · simp [hpids]
          · have hnew : (decide (w.epoch = []) || workerIds.contains w.workerId || pids.contains w.pid) =
                false := by simp [hfilled, hseen, hpids]
            rw [hnew, if_neg Bool.false_ne_true]
            change coversLoop s rest (count + 1) (w.workerId :: workerIds) (w.pid :: pids)
              (foundSelf || isSelf s w) = true ↔ _
            rw [ih]
            constructor
            · rintro ⟨inRange, hbound, hids, hidsFresh, hpidsDistinct, hpidsFresh, -, hfound⟩
              obtain ⟨hidsAll, hidsNew⟩ := fresh_cons.mpr ⟨hseen, hids, hidsFresh⟩
              obtain ⟨hpidsAll, hpidsNew⟩ := fresh_cons.mpr ⟨hpids, hpidsDistinct, hpidsFresh⟩
              refine ⟨⟨by omega, inRange⟩, fun _ => ?_, hidsAll, hidsNew, hpidsAll, hpidsNew, ?_, hfound⟩
              · rw [List.length_cons]
                rcases eq_or_ne rest [] with hnil | hcons
                · rw [hnil, List.length_nil]
                  omega
                · have := hbound hcons
                  omega
              · rw [List.length_cons]
                omega
            · rintro ⟨⟨-, inRange⟩, hbound, hids, hidsNew, hpidsAll, hpidsNew, -, hfound⟩
              have hlength := hbound (List.cons_ne_nil _ _)
              rw [List.length_cons] at hlength
              obtain ⟨-, hids', hidsFresh⟩ := fresh_cons.mp ⟨hids, hidsNew⟩
              obtain ⟨-, hpids', hpidsFresh⟩ := fresh_cons.mp ⟨hpidsAll, hpidsNew⟩
              exact ⟨inRange, fun _ => by omega, hids', hidsFresh, hpids', hpidsFresh, by omega, hfound⟩

/-! ## The elements of a printed marker -/

/-- A worker of the marker as it was printed. -/
structure Means (w : CurrentWorker) (m : MarkerWorker) : Prop where
  workerId : m.workerId = w.workerId
  pid : m.pid = w.pid
  epoch : encodeUtf8 w.registryEpoch = some m.epoch

theorem ascii_encoded {names : List String} (h : ∀ a ∈ names, encodeUtf8 (text a) = some (ascii a)) :
    List.Forall₂ (fun name bytes => encodeUtf8 name = some bytes) (names.map text)
      (names.map ascii) := by
  induction names with
  | nil => exact .nil
  | cons a rest ih =>
    exact .cons (h a List.mem_cons_self) (ih fun b hb => h b (List.mem_cons_of_mem _ hb))

theorem encoded_unique {names : List Text} {xs ys : List Bytes}
    (hx : List.Forall₂ (fun name bytes => encodeUtf8 name = some bytes) names xs)
    (hy : List.Forall₂ (fun name bytes => encodeUtf8 name = some bytes) names ys) : xs = ys := by
  induction hx generalizing ys with
  | nil =>
    cases hy
    rfl
  | cons head _ ih =>
    cases hy with
    | cons head' tail => rw [Option.some.inj (head.symm.trans head'), ih tail]

/-- An object with plain names is a table with exactly these keys. -/
theorem hasExactKeys_of_object {found : List (Text × Json)} {v : Value} (names : List String)
    (hnames : found.map Prod.fst = names.map text)
    (plain : ∀ a ∈ names, encodeUtf8 (text a) = some (ascii a)) (h : DecodesTo.ObjectOf found v) :
    hasExactKeys v (names.map ascii) = true := by
  obtain ⟨keys, hkeys, hperm⟩ := h.keys
  have hread : List.Forall₂ (fun name bytes => encodeUtf8 name = some bytes) (found.map Prod.fst) keys :=
    List.forall₂_map_left_iff.mpr hkeys
  rw [hnames] at hread
  obtain rfl := encoded_unique hread (ascii_encoded plain)
  have hlength : v.fields.length = names.length := by
    have := hperm.length_eq
    rwa [List.length_map, List.length_map, List.length_map] at this
  unfold hasExactKeys
  rw [Bool.and_eq_true, Bool.and_eq_true]
  refine ⟨⟨h.isTable, List.all_eq_true.mpr ?_⟩, ?_⟩
  · intro e he
    have hmem : e.1 ∈ (names.map ascii).map Key.str := hperm.mem_iff.mp (List.mem_map_of_mem he)
    obtain ⟨key, hkey, heq⟩ := List.mem_map.mp hmem
    rw [← heq]
    exact List.contains_iff_mem.mpr hkey
  · rw [hlength, List.length_map, beq_self_eq_true]

theorem encode_ascii (names : List String)
    (h : (names.all fun a => encodeUtf8 (text a) == some (ascii a)) = true) :
    ∀ a ∈ names, encodeUtf8 (text a) = some (ascii a) := by
  intro a ha
  exact beq_iff_eq.mp (List.all_eq_true.mp h a ha)

/-- What the table has under a plain name of the object. -/
theorem field_of_object {found : List (Text × Json)} {v : Value} {name : String} {j : Json}
    (h : DecodesTo.ObjectOf found v) (hmem : (text name, j) ∈ found)
    (plain : encodeUtf8 (text name) = some (ascii name)) : DecodesTo j (v.field name) :=
  h.member (text name) j (ascii name) hmem plain

theorem wholeAtLeast_int (least : Nat) {n : Int} (h : (least : Int) ≤ n) :
    wholeAtLeast (least : Rat) (.num (n : Rat)) = some (n : Rat) := by
  have hden : ((n : Rat)).den = 1 := Rat.den_intCast n
  have hle : (least : Rat) ≤ (n : Rat) := by exact_mod_cast h
  rw [wholeAtLeast, if_pos ⟨hden, hle⟩]

theorem ne_nil_of_hex {t : Text} {bytes : Bytes} (hex : isHexText 64 t = true)
    (h : encodeUtf8 t = some bytes) : bytes ≠ [] := by
  rintro rfl
  have hdecode := decodeUtf8_encodeUtf8 h
  rw [isHexText, ← Option.some.inj hdecode] at hex
  cases hex

theorem encoded_of_hex {length : Nat} {t : Text} (hex : isHexText length t = true) :
    ∃ bytes, encodeUtf8 t = some bytes := by
  rw [isHexText, Bool.and_eq_true] at hex
  obtain ⟨-, hall⟩ := hex
  clear length
  induction t with
  | nil => exact ⟨[], rfl⟩
  | cons c rest ih =>
    rw [List.all_cons, Bool.and_eq_true] at hall
    obtain ⟨more, hmore⟩ := ih hall.2
    have hsmall : c.val < 128 := by
      have := hall.1
      simp only [Bool.or_eq_true, Bool.and_eq_true, decide_eq_true_eq] at this
      omega
    refine ⟨[UInt8.ofNat c.val] ++ more, ?_⟩
    simp only [encodeUtf8, encodePoint, if_pos hsmall, hmore]
    rfl

/-- The names of a worker of the marker. -/
def workerFields : List String := ["worker_id", "pid", "registry_epoch"]

theorem reads_worker {w : CurrentWorker} {v : Value} {i : Nat} (hindex : 1 ≤ i)
    (h : DecodesTo w.json v) (hid : 0 ≤ w.workerId) (hpid : 1 ≤ w.pid)
    (hepoch : isHexText 64 w.registryEpoch = true) :
    ∃ m, Means w m ∧ ReadsAs (.num (i : Rat), v) m := by
  have plain := encode_ascii workerFields (by decide +kernel)
  have hnodup : (workerFields.map text).Nodup := by decide +kernel
  have hobject := DecodesTo.inv_obj h hnodup
  have hworkerId := DecodesTo.inv_int (field_of_object hobject List.mem_cons_self (plain "worker_id" (by simp [workerFields])))
  have hprocess := DecodesTo.inv_int (field_of_object hobject (List.mem_cons_of_mem _ List.mem_cons_self)
    (plain "pid" (by simp [workerFields])))
  obtain ⟨epoch, hencoded, hregistry⟩ := DecodesTo.inv_str (field_of_object hobject
    (List.mem_cons_of_mem _ (List.mem_cons_of_mem _ List.mem_cons_self))
    (plain "registry_epoch" (by simp [workerFields])))
  refine ⟨⟨w.workerId, w.pid, epoch⟩, ⟨rfl, rfl, hencoded⟩, ⟨i, hindex, rfl⟩, ?_, ?_, ?_, hregistry, ?_⟩
  · exact hasExactKeys_of_object workerFields rfl plain hobject
  · rw [hworkerId]
    exact wholeAtLeast_int 0 hid
  · rw [hprocess]
    exact wholeAtLeast_int 1 hpid
  · exact ne_nil_of_hex hepoch hencoded

/-! ## The whole marker -/

/-- What a marker needs to be read: no worker id twice, and every worker well formed. -/
structure Accepted.Sound (accepted : Accepted) : Prop where
  distinct : (accepted.current.map (·.workerId)).Nodup
  ids : ∀ w ∈ accepted.current, 0 ≤ w.workerId
  pids : ∀ w ∈ accepted.current, 1 ≤ w.pid
  epochs : ∀ w ∈ accepted.current, isHexText 64 w.registryEpoch = true
  filled : accepted.current ≠ []

theorem Vetted.sound {snapshot : Snapshot} {accepted : Accepted}
    (h : Vetted snapshot accepted) (hpids : ∀ pid ∈ snapshot.workerPids, 1 ≤ pid)
    (hsome : snapshot.workerPids ≠ []) : accepted.Sound := by
  refine ⟨h.distinct, h.ids, fun w hw => ?_, fun w hw => ?_, ?_⟩
  · obtain ⟨pid, hpid, heq⟩ := List.mem_map.mp (h.pids w hw)
    have hone := hpids pid hpid
    rw [← heq]
    exact Int.ofNat_le.mpr hone
  · obtain ⟨entry, -, reports, -⟩ := h.reports w hw
    exact isHexText_of_hexAt reports.registryEpoch
  · intro hnone
    obtain ⟨pid, hpid⟩ := List.exists_mem_of_ne_nil _ hsome
    have hmem := h.covers pid hpid
    rw [hnone] at hmem
    cases hmem

/-- The identity of a worker process is the one the marker has for it. -/
structure Identifies (s : State) (w : CurrentWorker) : Prop where
  workerId : s.workerId.map Int.ofNat = some w.workerId
  pid : s.pid.map Int.ofNat = some w.pid
  epoch : encodeUtf8 w.registryEpoch = s.registryEpoch

theorem cast_eq_iff {n : Option Nat} {k : Int} :
    n.map (fun n => (n : Rat)) = some (k : Rat) ↔ n.map Int.ofNat = some k := by
  cases n with
  | none => simp
  | some n =>
    change some (((n : Int) : Rat)) = some (k : Rat) ↔ some ((n : Int)) = some k
    rw [Option.some.injEq, Option.some.injEq, Int.cast_inj]

theorem isSelf_iff {s : State} {w : CurrentWorker} {m : MarkerWorker} (h : Means w m) :
    isSelf s m = true ↔ Identifies s w := by
  unfold isSelf
  rw [Bool.and_eq_true, Bool.and_eq_true, beq_iff_eq, beq_iff_eq, beq_iff_eq, h.workerId, h.pid]
  constructor
  · rintro ⟨⟨hid, hpid⟩, hepoch⟩
    exact ⟨cast_eq_iff.mp hid, cast_eq_iff.mp hpid, h.epoch.trans hepoch.symm⟩
  · rintro ⟨hid, hpid, hepoch⟩
    exact ⟨⟨cast_eq_iff.mpr hid, cast_eq_iff.mpr hpid⟩, hepoch.symm.trans h.epoch⟩

/-- The elements of the array, each read as the worker it was printed from. -/
theorem reads_fromIndex {workers : List CurrentWorker} {values : List Value}
    (h : List.Forall₂ DecodesTo (workers.map CurrentWorker.json) values)
    (ids : ∀ w ∈ workers, 0 ≤ w.workerId) (pids : ∀ w ∈ workers, 1 ≤ w.pid)
    (epochs : ∀ w ∈ workers, isHexText 64 w.registryEpoch = true) {k : Nat} (hk : 1 ≤ k) :
    List.Forall₂ (fun e w => ∃ m, Means w m ∧ ReadsAs e m) (fromIndex k values) workers := by
  induction workers generalizing values k with
  | nil =>
    cases h
    exact .nil
  | cons w rest ih =>
    rw [List.map_cons] at h
    obtain ⟨v, more, hv, hmore, rfl⟩ := List.forall₂_cons_left_iff.mp h
    obtain ⟨hid, hids⟩ := List.forall_mem_cons.mp ids
    obtain ⟨hpid, hpids⟩ := List.forall_mem_cons.mp pids
    obtain ⟨hepoch, hepochs⟩ := List.forall_mem_cons.mp epochs
    exact .cons (reads_worker hk hv hid hpid hepoch) (ih hmore hids hpids hepochs (by omega))

theorem forall₂_choose {α β γ : Type} {P : β → γ → Prop} {Q : α → γ → Prop} {xs : List α} {ys : List β}
    (h : List.Forall₂ (fun x y => ∃ z, P y z ∧ Q x z) xs ys) :
    ∃ zs, List.Forall₂ Q xs zs ∧ List.Forall₂ P ys zs := by
  induction h with
  | nil => exact ⟨[], .nil, .nil⟩
  | cons head _ ih =>
    obtain ⟨z, hP, hQ⟩ := head
    obtain ⟨zs, hxs, hys⟩ := ih
    exact ⟨z :: zs, .cons hQ hxs, .cons hP hys⟩

theorem inRange_fromIndex {values : List Value} (h : values.length ≤ maxWorkers) :
    InRange (fromIndex 1 values) := by
  intro e he i hi
  obtain ⟨j, hvalue, hkey⟩ := mem_fromIndex.mp he
  have hj := (List.getElem?_eq_some_iff.mp hvalue).1
  have hsame : i = 1 + j := Nat.cast_injective (Key.num.inj (hi.symm.trans hkey))
  omega

theorem map_means {ws : List CurrentWorker} {ms : List MarkerWorker} (h : List.Forall₂ Means ws ms) :
    ms.map (·.workerId) = ws.map (fun w => (w.workerId : Rat)) ∧
      ms.map (·.pid) = ws.map fun w => (w.pid : Rat) := by
  induction h with
  | nil => exact ⟨rfl, rfl⟩
  | cons head _ ih =>
    simp only [List.map_cons, head.workerId, head.pid, ih.1, ih.2]
    exact ⟨trivial, trivial⟩

theorem nodup_cast {ws : List CurrentWorker} {f : CurrentWorker → Int} :
    (ws.map fun w => (f w : Rat)).Nodup ↔ (ws.map f).Nodup := by
  have hcomp : (ws.map fun w => (f w : Rat)) = (ws.map f).map fun n : Int => (n : Rat) := by
    rw [List.map_map]
    rfl
  rw [hcomp]
  exact List.nodup_map_iff Int.cast_injective

/-- The loop over the workers of a printed marker. -/
theorem coversLoop_marker {s : State} {accepted : Accepted} (sound : accepted.Sound) {v : Value}
    (h : DecodesTo (.arr (accepted.workers.map CurrentWorker.json)) v) :
    coversLoop s v.fields 0 [] [] false = true ↔
      accepted.current.length ≤ maxWorkers ∧ (accepted.current.map (·.pid)).Nodup ∧
        ∃ w ∈ accepted.current, Identifies s w := by
  obtain ⟨values, hvalues, -, hperm⟩ := DecodesTo.inv_arr h
  have workersPerm : accepted.workers.Perm accepted.current := sortOn_perm _ _
  have inWorkers : ∀ {P : CurrentWorker → Prop}, (∀ w ∈ accepted.current, P w) →
      ∀ w ∈ accepted.workers, P w := fun hall w hw => hall w (workersPerm.mem_iff.mp hw)
  have hfromIndex := reads_fromIndex hvalues (inWorkers sound.ids) (inWorkers sound.pids)
    (inWorkers sound.epochs) (Nat.le_refl 1)
  obtain ⟨ws, hread, hws⟩ := List.perm_comp_forall₂ hperm hfromIndex
  obtain ⟨ms, hreads, hmeans⟩ := forall₂_choose hread
  have hcurrent : ws.Perm accepted.current := hws.trans workersPerm
  have hlength : v.fields.length = accepted.current.length := by
    rw [hread.length_eq, hcurrent.length_eq]
  have hvaluesLength : values.length = accepted.current.length := by
    rw [← length_fromIndex 1 values, ← hperm.length_eq, hlength]
  have hcurrentPos : 0 < accepted.current.length := List.length_pos_iff.mpr sound.filled
  have hself : (∃ m ∈ ms, isSelf s m = true) ↔ ∃ w ∈ accepted.current, Identifies s w := by
    constructor
    · rintro ⟨m, hm, hself⟩
      obtain ⟨w, hw, hboth⟩ := exists_of_mem_right hmeans hm
      exact ⟨w, hcurrent.mem_iff.mp hw, (isSelf_iff hboth).mp hself⟩
    · rintro ⟨w, hw, hnames⟩
      obtain ⟨m, hm, hboth⟩ := exists_of_mem_left hmeans (hcurrent.mem_iff.mpr hw)
      exact ⟨m, hm, (isSelf_iff hboth).mpr hnames⟩
  obtain ⟨hids, hpids⟩ := map_means hmeans
  rw [coversLoop_iff hreads, hids, hpids, nodup_cast, nodup_cast, hself, hlength,
    (hcurrent.map _).nodup_iff, (hcurrent.map (fun w => w.pid)).nodup_iff]
  constructor
  · rintro ⟨-, hbound, -, -, hpidsDistinct, -, -, hfound⟩
    have hsome : v.fields ≠ [] := by
      intro hnil
      rw [hnil, List.length_nil] at hlength
      omega
    have := hbound hsome
    refine ⟨by omega, hpidsDistinct, hfound.resolve_left Bool.false_ne_true⟩
  · rintro ⟨hbound, hpidsDistinct, hfound⟩
    have hrange : InRange v.fields := by
      intro e he
      exact inRange_fromIndex (by omega) e (hperm.mem_iff.mp he)
    refine ⟨hrange, fun _ => by omega, sound.distinct, fun _ _ => List.not_mem_nil, hpidsDistinct,
      fun _ _ => List.not_mem_nil, by omega, Or.inr hfound⟩

end KonnectFapi.Source.Readiness

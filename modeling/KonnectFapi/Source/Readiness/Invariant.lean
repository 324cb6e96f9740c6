import KonnectFapi.Source.Readiness.Captured

/-!
# What holds in every order of steps

Source: handler.lua:448-607; scripts/require-wp5-readiness.sh:254-345. A marker that stands
was published for lines read from files that workers had written, and nobody has removed or
replaced it since.
-/

namespace KonnectFapi.Source.Readiness
open Lib Lib.Lua Lib.Json Transport

variable {ι : Type}

/-- What a worker has done, as the history shows it. -/
def Event.effect? [DecidableEq ι] (i : ι) : Event ι → Option FileEffect
  | .wrote j status => if j = i then some (.writeStatus status) else none
  | .removed j => if j = i then some .removeMarker else none
  | _ => none

def effectsOf [DecidableEq ι] (i : ι) (past : List (Event ι)) : List FileEffect := past.filterMap (Event.effect? i)

/-- A marker that stood before stands no longer, or is another one. -/
def Event.EndsMarker : Event ι → Prop
  | .removed _ => True
  | .unpublished => True
  | .published _ => True
  | _ => False

/-- The status file of a worker id is written. -/
def Event.WritesRow (n : Nat) : Event ι → Prop
  | .wrote _ status => status.workerId.getD 0 = n
  | _ => False

/-- A line of a capture, whose status files have contents of some kind. -/
inductive Captured (x : Setting ι) (P : StatusSnapshot → Prop) : Text → Prop where
  | generation {t : Text} (plain : isGeneration t = true) : Captured x P (captureLine "G" t)
  | workerPid (t : Text) : Captured x P (captureLine "P" t)
  | status {status : StatusSnapshot} (content : P status) :
      Captured x P (statusLine (status.workerId.getD 0) (x.encode status))

theorem Captured.mono {x : Setting ι} {P Q : StatusSnapshot → Prop} {line : Text}
    (h : Captured x P line) (weaken : ∀ status, P status → Q status) : Captured x Q line := by
  cases h with
  | generation plain => exact .generation plain
  | workerPid t => exact .workerPid t
  | status content => exact .status (weaken _ content)

theorem captured_concat {x : Setting ι} {P : StatusSnapshot → Prop} {lines : List Text} {line : Text}
    (old : ∀ l ∈ lines, Captured x P l) (new : Captured x P line) :
    ∀ l ∈ lines ++ [line], Captured x P l := by
  intro l hl
  rcases List.mem_append.mp hl with hl | hl
  · exact old l hl
  · exact List.mem_singleton.mp hl ▸ new

/-- Some worker has written the status. -/
def WrittenIn (past : List (Event ι)) (status : StatusSnapshot) : Prop := ∃ i, .wrote i status ∈ past

theorem WrittenIn.append {past : List (Event ι)} {status : StatusSnapshot} (h : WrittenIn past status)
    (more : List (Event ι)) : WrittenIn (past ++ more) status := by
  obtain ⟨i, hwrote⟩ := h
  exact ⟨i, List.mem_append_left _ hwrote⟩

/-- A marker printed for captured lines. -/
def Vouched (x : Setting ι) (past : List (Event ι)) (marker : Bytes) : Prop :=
  ∃ lines expectedGeneration accepted,
    validate x.floats x.digits lines expectedGeneration = some accepted ∧
      (∀ line ∈ lines, Captured x (WrittenIn past) line) ∧ marker = canonical accepted.marker

theorem Vouched.append {x : Setting ι} {past : List (Event ι)} {marker : Bytes}
    (h : Vouched x past marker) (more : List (Event ι)) : Vouched x (past ++ more) marker := by
  obtain ⟨lines, expected, accepted, haccepted, hlines, hmarker⟩ := h
  refine ⟨lines, expected, accepted, haccepted, ?_, hmarker⟩
  intro line hline
  exact (hlines line hline).mono fun status written => written.append more

/-- A process, with everything it has done to the files. -/
structure ProcInv (x : Setting ι) (i : ι) (p : Proc) (effects : List FileEffect) : Prop where
  known : Known (x.process i) p.world.modules.transport
  settled : ∃ env configs, Settled x.host (x.process i) env configs p.world.modules.transport
  recorded : Recorded (effects ++ p.pending) p.world.modules.transport

structure Inv [DecidableEq ι] (x : Setting ι) (c : Cluster ι) (past : List (Event ι)) : Prop where
  procs : ∀ i, ProcInv x i (c.procs i) (effectsOf i past)
  rows : ∀ n status, c.rows n = some status → status.workerId.getD 0 = n ∧
    ∃ i, Since (fun _ e => e = .wrote i status) (Event.WritesRow n) past
  lines : ∀ line ∈ c.lines, Captured x (WrittenIn past) line
  current : ∀ marker, c.current = some marker → Vouched x past marker
  marker : ∀ marker, c.marker = some marker →
    Since (fun before e => e = .published marker ∧ Vouched x before marker) Event.EndsMarker past

variable {x : Setting ι} {c : Cluster ι} {past : List (Event ι)}

theorem Inv.initial [DecidableEq ι] (x : Setting ι) : Inv x {} [] where
  procs i := by
    have who : Known (x.process i) Worker.World.initial.modules.transport := ⟨Or.inl ⟨rfl, rfl⟩, rfl⟩
    have env : Env := ⟨fun _ => none, 0, true, true, true⟩
    exact ⟨who, ⟨env, .nil, Or.inr (Or.inl ⟨rfl, rfl⟩)⟩, recorded_initial⟩
  rows n status h := by cases h
  lines line h := absurd h List.not_mem_nil
  current marker h := by cases h
  marker marker h := by cases h

/-! ## The processes -/

/-- A step of handler code. -/
theorem ProcInv.work {i : ι} {p : Proc} {effects : List FileEffect} (h : ProcInv x i p effects)
    (idle : p.pending = []) (step : Worker.Step) :
    ProcInv x i ⟨(Worker.step x.host (x.process i) p.world step).1,
      Worker.filesOf (Worker.step x.host (x.process i) p.world step).2⟩ effects where
  known := Worker.step_known x.host (x.process i) p.world step h.known
  settled := by
    obtain ⟨env, configs, settled⟩ := h.settled
    cases hstep : step.configures with
    | false =>
      exact ⟨env, configs, Worker.step_settled x.host (x.process i) env configs p.world hstep settled⟩
    | true =>
      cases step with
      | configure env' refreshEnv configs' =>
        exact ⟨env', configs',
          Worker.step_configure_settled x.host env' refreshEnv configs' h.known⟩
      | _ => cases hstep
  recorded := by
    have recorded := h.recorded
    rw [idle, List.append_nil] at recorded
    exact recorded.step (Worker.step_tracks x.host step h.known)

/-- A file operation moves from what is pending to what is done. -/
theorem ProcInv.perform {i : ι} {p : Proc} {effects rest : List FileEffect} {effect : FileEffect}
    (h : ProcInv x i p effects) (hpending : p.pending = effect :: rest) :
    ProcInv x i ⟨p.world, rest⟩ (effects ++ [effect]) where
  known := h.known
  settled := h.settled
  recorded := by
    have recorded := h.recorded
    rw [hpending] at recorded
    rwa [List.append_assoc]

/-- The event of a file operation. -/
def performedEvent (i : ι) : FileEffect → Event ι
  | .removeMarker => .removed i
  | .writeStatus status => .wrote i status

theorem performed_event (c : Cluster ι) (i : ι) (effect : FileEffect) :
    (Setting.performed c i effect).2 = [performedEvent i effect] := by
  cases effect <;> rfl

theorem performed_procs (c : Cluster ι) (i : ι) (effect : FileEffect) :
    (Setting.performed c i effect).1.procs = c.procs := by
  cases effect <;> rfl

/-- Nothing that a marker or a status file rests on. -/
def Event.Quiet (e : Event ι) : Prop := ¬ e.EndsMarker ∧ ∀ n, ¬ e.WritesRow n

theorem worked_quiet {i : ι} {events : List Worker.Event} :
    ∀ e ∈ events.map (Event.worked i), e.Quiet := by
  intro e he
  obtain ⟨event, -, rfl⟩ := List.mem_map.mp he
  exact ⟨id, fun _ => id⟩

section
variable [DecidableEq ι]

theorem setProc_self (c : Cluster ι) (i : ι) (p : Proc) : (c.setProc i p).procs i = p :=
  Function.update_self ..

theorem setProc_of_ne (c : Cluster ι) (p : Proc) {i j : ι} (h : j ≠ i) :
    (c.setProc i p).procs j = c.procs j := Function.update_of_ne h ..

theorem effectsOf_append (i : ι) (first second : List (Event ι)) :
    effectsOf i (first ++ second) = effectsOf i first ++ effectsOf i second := List.filterMap_append

theorem effectsOf_performed (i j : ι) (effect : FileEffect) :
    effectsOf j [performedEvent i effect] = if i = j then [effect] else [] := by
  unfold effectsOf performedEvent
  by_cases h : i = j
  · cases effect <;> simp [Event.effect?, h]
  · cases effect <;> simp [Event.effect?, h]

theorem effect?_eq_some {i : ι} {e : Event ι} {effect : FileEffect} :
    e.effect? i = some effect ↔ e = performedEvent i effect := by
  constructor
  · intro h
    cases e with
    | wrote j status | removed j =>
      simp only [Event.effect?] at h
      split at h
      · rename_i same
        obtain rfl := Option.some.inj h
        rw [same]
        rfl
      · cases h
    | worked | published | unpublished => cases h
  · rintro rfl
    cases effect <;> exact if_pos rfl

theorem effectsOf_worked (i j : ι) (events : List Worker.Event) :
    effectsOf j (events.map (.worked i)) = [] := by
  induction events with
  | nil => rfl
  | cons e rest ih => exact ih

theorem step_procs (h : ∀ i, ProcInv x i (c.procs i) (effectsOf i past)) (input : Input ι) :
    ∀ j, ProcInv x j ((x.step c input).1.procs j) (effectsOf j (past ++ (x.step c input).2)) := by
  have same : ∀ j emitted, effectsOf j emitted = [] →
      ProcInv x j (c.procs j) (effectsOf j (past ++ emitted)) := by
    intro j emitted hsilent
    rw [effectsOf_append, hsilent, List.append_nil]
    exact h j
  intro j
  cases input with
  | work i step =>
    simp only [Setting.step]
    split
    · rename_i idle
      dsimp only
      rw [effectsOf_append, effectsOf_worked, List.append_nil]
      by_cases hj : j = i
      · subst hj
        rw [setProc_self]
        exact (h j).work idle _
      · rw [setProc_of_ne _ _ hj]
        exact h j
    · exact same j [] rfl
  | perform i =>
    simp only [Setting.step]
    split
    · exact same j [] rfl
    · rename_i effect rest hpending
      rw [performed_event, performed_procs, effectsOf_append, effectsOf_performed]
      by_cases hj : j = i
      · subst hj
        rw [setProc_self, if_pos rfl]
        exact (h j).perform hpending
      · rw [setProc_of_ne _ _ hj, if_neg fun heq => hj heq.symm, List.append_nil]
        exact h j
  | capture | workerPid => exact same j [] rfl
  | generation t =>
    simp only [Setting.step]
    split <;> exact same j [] rfl
  | read n =>
    simp only [Setting.step]
    split <;> exact same j [] rfl
  | validate expected =>
    simp only [Setting.step]
    split <;> exact same j [] rfl
  | publish =>
    simp only [Setting.step]
    split <;> exact same j _ rfl
  | unpublish => exact same j _ rfl

/-! ## What the parties share -/

/-- Steps that leave the files alone. -/
theorem Inv.quiet (h : Inv x c past) {c' : Cluster ι} {emitted : List (Event ι)}
    (procs : ∀ i, ProcInv x i (c'.procs i) (effectsOf i (past ++ emitted)))
    (quiet : ∀ e ∈ emitted, e.Quiet) (rows : c'.rows = c.rows) (marker : c'.marker = c.marker)
    (lines : ∀ line ∈ c'.lines, Captured x (WrittenIn (past ++ emitted)) line)
    (current : ∀ m, c'.current = some m → Vouched x (past ++ emitted) m) :
    Inv x c' (past ++ emitted) where
  procs := procs
  rows n status hrow := by
    rw [rows] at hrow
    obtain ⟨hid, i, hwrote⟩ := h.rows n status hrow
    exact ⟨hid, i, hwrote.append fun e he => (quiet e he).2 n⟩
  lines := lines
  current := current
  marker m hm := by
    rw [marker] at hm
    exact (h.marker m hm).append fun e he => (quiet e he).1

/-- A file operation of a worker. -/
theorem Inv.performed (h : Inv x c past) (i : ι) {p : Proc} {effect : FileEffect}
    (procs : ∀ j, ProcInv x j ((c.setProc i p).procs j)
      (effectsOf j (past ++ [performedEvent i effect]))) :
    Inv x (Setting.performed (c.setProc i p) i effect).1 (past ++ [performedEvent i effect]) where
  procs j := by
    rw [performed_procs]
    exact procs j
  lines line hline := by
    cases effect <;> exact (h.lines line hline).mono fun _ written => written.append _
  current m hm := by
    cases effect <;> exact (h.current m hm).append _
  rows n status hrow := by
    cases effect with
    | removeMarker =>
      obtain ⟨hid, j, hwrote⟩ := h.rows n status hrow
      exact ⟨hid, j, hwrote.append fun e he => List.mem_singleton.mp he ▸ id⟩
    | writeStatus written =>
      by_cases hn : n = written.workerId.getD 0
      · subst hn
        have hsame : Function.update c.rows (written.workerId.getD 0) (some written)
            (written.workerId.getD 0) = some status := hrow
        rw [Function.update_self] at hsame
        obtain rfl := Option.some.inj hsame
        exact ⟨rfl, i, Since.now rfl⟩
      · have hsame : Function.update c.rows (written.workerId.getD 0) (some written) n =
            some status := hrow
        rw [Function.update_of_ne hn] at hsame
        obtain ⟨hid, j, hwrote⟩ := h.rows n status hsame
        refine ⟨hid, j, hwrote.append fun e he hwrites => hn ?_⟩
        rw [List.mem_singleton.mp he] at hwrites
        exact hwrites.symm
  marker m hm := by
    cases effect with
    | removeMarker => cases hm
    | writeStatus written =>
      exact (h.marker m hm).append fun e he => List.mem_singleton.mp he ▸ id

theorem Inv.step (h : Inv x c past) (input : Input ι) :
    Inv x (x.step c input).1 (past ++ (x.step c input).2) := by
  have procs := step_procs h.procs input
  have nothing : ∀ e ∈ ([] : List (Event ι)), e.Quiet := fun e he => absurd he List.not_mem_nil
  have oldLines : ∀ more, ∀ line ∈ c.lines, Captured x (WrittenIn (past ++ more)) line :=
    fun more line hline => (h.lines line hline).mono fun _ written => written.append more
  have oldCurrent : ∀ more m, c.current = some m → Vouched x (past ++ more) m :=
    fun more m hm => (h.current m hm).append more
  cases input with
  | work i step =>
    simp only [Setting.step] at procs ⊢
    split at procs
    · rename_i idle
      rw [if_pos idle]
      exact h.quiet procs worked_quiet rfl rfl (oldLines _) (oldCurrent _)
    · rename_i busy
      rw [if_neg busy]
      exact h.quiet procs nothing rfl rfl (oldLines _) (oldCurrent _)
  | perform i =>
    simp only [Setting.step] at procs ⊢
    cases hpending : (c.procs i).pending with
    | nil =>
      rw [hpending] at procs
      exact h.quiet procs nothing rfl rfl (oldLines _) (oldCurrent _)
    | cons effect rest =>
      rw [hpending] at procs
      dsimp only at procs ⊢
      rw [performed_event] at procs ⊢
      rw [performed_procs] at procs
      exact h.performed i procs
  | capture => exact h.quiet procs nothing rfl rfl (fun line hline => absurd hline List.not_mem_nil) (oldCurrent _)
  | generation t =>
    simp only [Setting.step] at procs ⊢
    by_cases hplain : isGeneration t = true
    · rw [if_pos hplain] at procs ⊢
      apply h.quiet procs nothing rfl rfl _ (oldCurrent _)
      exact captured_concat (oldLines []) (.generation hplain)
    · rw [if_neg hplain] at procs ⊢
      exact h.quiet procs nothing rfl rfl (oldLines _) (oldCurrent _)
  | workerPid t =>
    apply h.quiet procs nothing rfl rfl _ (oldCurrent _)
    exact captured_concat (oldLines []) (.workerPid t)
  | read n =>
    simp only [Setting.step] at procs ⊢
    cases hrow : c.rows n with
    | none =>
      rw [hrow] at procs
      exact h.quiet procs nothing rfl rfl (oldLines _) (oldCurrent _)
    | some status =>
      rw [hrow] at procs
      apply h.quiet procs nothing rfl rfl _ (oldCurrent _)
      obtain ⟨rfl, i, hwrote⟩ := h.rows n status hrow
      obtain ⟨e, he, rfl⟩ := hwrote.exists_mem
      exact captured_concat (oldLines []) (.status ⟨i, List.mem_append_left _ he⟩)
  | validate expected =>
    simp only [Setting.step] at procs ⊢
    cases haccepted : validate x.floats x.digits c.lines expected with
    | none =>
      rw [haccepted] at procs
      exact h.quiet procs nothing rfl rfl (oldLines _) (oldCurrent _)
    | some accepted =>
      rw [haccepted] at procs
      apply h.quiet procs nothing rfl rfl (oldLines _)
      intro m hm
      dsimp only at hm
      rw [readValidation_output, Option.map_some, Option.some.injEq] at hm
      exact ⟨c.lines, expected, accepted, haccepted, oldLines [], hm.symm⟩
  | publish =>
    simp only [Setting.step] at procs ⊢
    cases hcurrent : c.current with
    | none =>
      rw [hcurrent] at procs
      exact h.quiet procs nothing rfl rfl (oldLines _) (oldCurrent _)
    | some m =>
      rw [hcurrent] at procs
      refine ⟨procs, ?_, oldLines _, ?_, ?_⟩
      · intro n status hrow
        obtain ⟨hid, i, hwrote⟩ := h.rows n status hrow
        exact ⟨hid, i, hwrote.append fun e he => List.mem_singleton.mp he ▸ id⟩
      · intro m' hm'
        exact oldCurrent _ m' (hcurrent.trans hm')
      · intro m' hm'
        obtain rfl := Option.some.inj hm'
        exact Since.now ⟨rfl, h.current m hcurrent⟩
  | unpublish =>
    refine ⟨procs, ?_, oldLines _, oldCurrent _, fun m hm => ?_⟩
    · intro n status hrow
      obtain ⟨hid, i, hwrote⟩ := h.rows n status hrow
      exact ⟨hid, i, hwrote.append fun e he => List.mem_singleton.mp he ▸ id⟩
    · cases hm

theorem inv_run (x : Setting ι) (inputs : List (Input ι)) :
    Inv x (x.run {} inputs).1 (x.run {} inputs).2 :=
  Machine.run_history (P := Inv x) (fun _ input _ h => h.step input) {} inputs [] (.initial x)

end

end KonnectFapi.Source.Readiness

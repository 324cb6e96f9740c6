import Mathlib.Data.List.Basic

/-!
# Machines with outputs

A deterministic step function that consumes one input and emits a list of
outputs, its runs, and the rules a development needs about them: invariants of
the state, invariants relating the state to everything emitted so far, runs
whose every step meets a condition, and runs seen through a view that other
inputs do not touch. Nondeterminism is an input.
-/

namespace KonnectFapi.Lib.Machine

variable {σ ι ο : Type*} (step : σ → ι → σ × List ο)

/-- The state after the inputs and the outputs in the order they were emitted. -/
def run (s : σ) : List ι → σ × List ο
  | [] => (s, [])
  | i :: rest =>
    let (next, emitted) := step s i
    let (final, later) := run next rest
    (final, emitted ++ later)

@[simp] theorem run_nil (s : σ) : run step s [] = (s, []) := rfl

theorem run_cons (s : σ) (i : ι) (rest : List ι) :
    run step s (i :: rest) =
      ((run step (step s i).1 rest).1, (step s i).2 ++ (run step (step s i).1 rest).2) := rfl

theorem run_append (s : σ) (first second : List ι) :
    run step s (first ++ second) =
      ((run step (run step s first).1 second).1,
        (run step s first).2 ++ (run step (run step s first).1 second).2) := by
  induction first generalizing s with
  | nil => rfl
  | cons i rest ih => simp only [List.cons_append, run_cons, ih, List.append_assoc]

/-- A state is reachable from `start` when some run ends in it. -/
def Reachable (start s : σ) : Prop := ∃ inputs, (run step start inputs).1 = s

theorem reachable_run (start : σ) (inputs : List ι) :
    Reachable step start (run step start inputs).1 := ⟨inputs, rfl⟩

theorem Reachable.refl (start : σ) : Reachable step start start := ⟨[], rfl⟩

theorem Reachable.run {start s : σ} (h : Reachable step start s) (inputs : List ι) :
    Reachable step start (Machine.run step s inputs).1 := by
  obtain ⟨before, rfl⟩ := h
  exact ⟨before ++ inputs, by rw [run_append]⟩

variable {step}

/-- What every step preserves, every run preserves. -/
theorem run_invariant {P : σ → Prop} (preserved : ∀ s i, P s → P (step s i).1)
    (s : σ) (inputs : List ι) (h : P s) : P (run step s inputs).1 := by
  induction inputs generalizing s with
  | nil => exact h
  | cons i rest ih => exact ih _ (preserved s i h)

theorem Reachable.invariant {P : σ → Prop} {start s : σ}
    (preserved : ∀ s i, P s → P (step s i).1) (h : Reachable step start s) (hstart : P start) :
    P s := by
  obtain ⟨inputs, rfl⟩ := h
  exact run_invariant preserved start inputs hstart

/-- What every output emitted under an invariant satisfies, every output of a run
satisfies. -/
theorem run_outputs {P : σ → Prop} {Q : ο → Prop} (preserved : ∀ s i, P s → P (step s i).1)
    (emitted : ∀ s i, P s → ∀ o ∈ (step s i).2, Q o) (s : σ) (inputs : List ι) (h : P s) :
    ∀ o ∈ (run step s inputs).2, Q o := by
  induction inputs generalizing s with
  | nil => intro o ho; cases ho
  | cons i rest ih =>
    intro o ho
    rw [run_cons] at ho
    rcases List.mem_append.mp ho with now | later
    · exact emitted s i h o now
    · exact ih _ (preserved s i h) o later

/-- An invariant of the state together with everything emitted before it. -/
theorem run_history {P : σ → List ο → Prop}
    (preserved : ∀ s i past, P s past → P (step s i).1 (past ++ (step s i).2))
    (s : σ) (inputs : List ι) (past : List ο) (h : P s past) :
    P (run step s inputs).1 (past ++ (run step s inputs).2) := by
  induction inputs generalizing s past with
  | nil => simpa using h
  | cons i rest ih =>
    have next := ih (step s i).1 (past ++ (step s i).2) (preserved s i past h)
    simpa only [run_cons, List.append_assoc] using next

variable (step) in
/-- Every step of the run meets `ok` in the state it is taken from. -/
def RunMeets (ok : σ → ι → Prop) (s : σ) : List ι → Prop
  | [] => True
  | i :: rest => ok s i ∧ RunMeets ok (step s i).1 rest

theorem run_invariant_of_meets {ok : σ → ι → Prop} {P : σ → Prop}
    (preserved : ∀ s i, P s → ok s i → P (step s i).1) (s : σ) (inputs : List ι)
    (meets : RunMeets step ok s inputs) (h : P s) : P (run step s inputs).1 := by
  induction inputs generalizing s with
  | nil => exact h
  | cons i rest ih => exact ih _ meets.2 (preserved s i h meets.1)

theorem run_outputs_of_meets {ok : σ → ι → Prop} {P : σ → Prop} {Q : ο → Prop}
    (preserved : ∀ s i, P s → ok s i → P (step s i).1)
    (emitted : ∀ s i, P s → ok s i → ∀ o ∈ (step s i).2, Q o) (s : σ) (inputs : List ι)
    (meets : RunMeets step ok s inputs) (h : P s) : ∀ o ∈ (run step s inputs).2, Q o := by
  induction inputs generalizing s with
  | nil => intro o ho; cases ho
  | cons i rest ih =>
    intro o ho
    rw [run_cons] at ho
    rcases List.mem_append.mp ho with now | later
    · exact emitted s i h meets.1 o now
    · exact ih _ meets.2 (preserved s i h meets.1) o later

theorem run_history_of_meets {ok : σ → ι → Prop} {P : σ → List ο → Prop}
    (preserved : ∀ s i past, P s past → ok s i → P (step s i).1 (past ++ (step s i).2))
    (s : σ) (inputs : List ι) (meets : RunMeets step ok s inputs) (past : List ο)
    (h : P s past) : P (run step s inputs).1 (past ++ (run step s inputs).2) := by
  induction inputs generalizing s past with
  | nil => simpa using h
  | cons i rest ih =>
    have next := ih (step s i).1 meets.2 (past ++ (step s i).2) (preserved s i past h meets.1)
    simpa only [run_cons, List.append_assoc] using next

instance RunMeets.decidable {ok : σ → ι → Prop} [∀ s i, Decidable (ok s i)] (s : σ) :
    (inputs : List ι) → Decidable (RunMeets step ok s inputs)
  | [] => isTrue trivial
  | i :: rest => @instDecidableAnd _ _ _ (RunMeets.decidable (step s i).1 rest)

theorem RunMeets.congr {ok ok' : σ → ι → Prop} (same : ∀ s i, ok s i ↔ ok' s i) (s : σ)
    (inputs : List ι) : RunMeets step ok s inputs ↔ RunMeets step ok' s inputs := by
  induction inputs generalizing s with
  | nil => exact Iff.rfl
  | cons i rest ih => exact and_congr (same s i) (ih _)

theorem RunMeets.of_inputs {ok : σ → ι → Prop} (s : σ) {inputs : List ι}
    (h : ∀ i ∈ inputs, ∀ s, ok s i) : RunMeets step ok s inputs := by
  induction inputs generalizing s with
  | nil => trivial
  | cons i rest ih =>
    exact ⟨h i List.mem_cons_self s, ih _ fun j hj => h j (List.mem_cons_of_mem i hj)⟩

/-- A run's outputs all satisfy `Q` when each of its steps emits such outputs only. -/
theorem forall_run_outputs {Q : ο → Prop} (s : σ) (inputs : List ι) :
    (∀ o ∈ (run step s inputs).2, Q o) ↔
      RunMeets step (fun t i => ∀ o ∈ (step t i).2, Q o) s inputs := by
  induction inputs generalizing s with
  | nil => simp [RunMeets]
  | cons i rest ih =>
    rw [run_cons, List.forall_mem_append]
    exact and_congr Iff.rfl (ih _)

/-- Inputs that neither move the view nor emit anything visible can be removed:
what is visible, and where the view ends, stay the same. -/
theorem run_filter {ν : Type*} (view : σ → ν) (own : ι → Bool) (visible : ο → Bool) (s t : σ)
    (inputs : List ι)
    (congruent : ∀ i ∈ inputs, own i = true → ∀ s t, view s = view t →
      view (step s i).1 = view (step t i).1 ∧
        (step s i).2.filter visible = (step t i).2.filter visible)
    (foreign : ∀ i ∈ inputs, own i = false → ∀ s,
      view (step s i).1 = view s ∧ (step s i).2.filter visible = [])
    (h : view s = view t) :
    view (run step s inputs).1 = view (run step t (inputs.filter own)).1 ∧
      (run step s inputs).2.filter visible = (run step t (inputs.filter own)).2.filter visible := by
  induction inputs generalizing s t with
  | nil => exact ⟨h, rfl⟩
  | cons i rest ih =>
    have ih := fun s t h => ih s t (fun j hj => congruent j (List.mem_cons_of_mem i hj))
      (fun j hj => foreign j (List.mem_cons_of_mem i hj)) h
    cases hi : own i with
    | true =>
      obtain ⟨viewEq, outEq⟩ := congruent i List.mem_cons_self hi s t h
      obtain ⟨viewRest, outRest⟩ := ih _ _ viewEq
      simp only [List.filter_cons, hi, if_true, run_cons, List.filter_append, viewRest, outRest,
        outEq, and_self]
    | false =>
      obtain ⟨viewEq, outEq⟩ := foreign i List.mem_cons_self hi s
      obtain ⟨viewRest, outRest⟩ := ih _ t (viewEq.trans h)
      simp only [List.filter_cons, hi, Bool.false_eq_true, if_false, run_cons, List.filter_append,
        outEq, List.nil_append, viewRest, outRest, and_self]

end KonnectFapi.Lib.Machine

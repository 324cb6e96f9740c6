import Mathlib.Data.List.Basic

/-!
# Programs that ask

A program puts questions to its surroundings and goes on with the answers, whatever they
are, until it returns a value or fails. What has been asked and answered is the history of a
run; what a program asks, and after which history, is read off it by the rules below.
-/

namespace KonnectFapi.Lib

/-- A program whose questions `q : Q` are answered in `A q`. -/
inductive Dialogue (Q : Type) (A : Q → Type) (ε α : Type) where
  | done (value : α)
  | failed (reason : ε)
  | ask (q : Q) (next : A q → Dialogue Q A ε α)

namespace Dialogue
variable {Q : Type} {A : Q → Type} {ε α β : Type}

abbrev Exchange (A : Q → Type) := (q : Q) × A q

def bind : Dialogue Q A ε α → (α → Dialogue Q A ε β) → Dialogue Q A ε β
  | .done value, k => k value
  | .failed reason, _ => .failed reason
  | .ask q next, k => .ask q fun a => (next a).bind k

instance : Monad (Dialogue Q A ε) where
  pure := .done
  bind := bind

def question (q : Q) : Dialogue Q A ε (A q) := .ask q .done

/-- A check that asks nothing. -/
def check : Except ε α → Dialogue Q A ε α
  | .ok value => .done value
  | .error reason => .failed reason

/-- How the program ends, as a value. -/
def attempt : Dialogue Q A ε α → Dialogue Q A ε (Except ε α)
  | .done value => .done (.ok value)
  | .failed reason => .done (.error reason)
  | .ask q next => .ask q fun a => (next a).attempt

/-! ## Runs -/

/-- A whole run: its history, and how it ends. -/
inductive Ran : Dialogue Q A ε α → List (Exchange A) → Except ε α → Prop
  | done (value : α) : Ran (.done value) [] (.ok value)
  | failed (reason : ε) : Ran (.failed reason) [] (.error reason)
  | ask {q : Q} {next : A q → Dialogue Q A ε α} {a : A q} {later : List (Exchange A)}
      {result : Except ε α} (h : Ran (next a) later result) :
      Ran (.ask q next) (⟨q, a⟩ :: later) result

/-- After the history the program asks the question. -/
inductive Asks : Dialogue Q A ε α → List (Exchange A) → Q → Prop
  | now {q : Q} {next : A q → Dialogue Q A ε α} : Asks (.ask q next) [] q
  | later {q q' : Q} {next : A q → Dialogue Q A ε α} {a : A q} {past : List (Exchange A)}
      (h : Asks (next a) past q') : Asks (.ask q next) (⟨q, a⟩ :: past) q'

/-- What stands in the history of a run has been asked after what stands before it. -/
theorem Ran.asks {d : Dialogue Q A ε α} {t before after : List (Exchange A)} {r : Except ε α}
    {e : Exchange A} (h : Ran d t r) (ht : t = before ++ e :: after) : Asks d before e.1 := by
  induction h generalizing before with
  | done value => simp at ht
  | failed reason => simp at ht
  | ask h ih =>
    cases before with
    | nil =>
      obtain ⟨rfl, -⟩ := List.cons.inj ht
      exact .now
    | cons first rest =>
      obtain ⟨rfl, hrest⟩ := List.cons.inj ht
      exact .later (ih hrest)

@[simp] theorem bind_done (value : α) (k : α → Dialogue Q A ε β) :
    (Dialogue.done value >>= k : Dialogue Q A ε β) = k value := rfl

@[simp] theorem bind_failed (reason : ε) (k : α → Dialogue Q A ε β) :
    (Dialogue.failed reason >>= k : Dialogue Q A ε β) = .failed reason := rfl

@[simp] theorem bind_ask (q : Q) (next : A q → Dialogue Q A ε α) (k : α → Dialogue Q A ε β) :
    (Dialogue.ask q next >>= k : Dialogue Q A ε β) = .ask q fun a => next a >>= k := rfl

/-! ## Programs one after the other -/

theorem Ran.bind {d : Dialogue Q A ε α} {k : α → Dialogue Q A ε β} {before after : List (Exchange A)}
    {value : α} {result : Except ε β} (hd : Ran d before (.ok value)) (hk : Ran (k value) after result) :
    Ran (d >>= k) (before ++ after) result := by
  generalize hvalue : Except.ok value = r at hd
  induction hd with
  | done v =>
    cases hvalue
    exact hk
  | failed reason => cases hvalue
  | ask h ih => exact .ask (ih hvalue)

theorem ran_bind_ok {d : Dialogue Q A ε α} {k : α → Dialogue Q A ε β} {t : List (Exchange A)} {b : β} :
    Ran (d >>= k) t (.ok b) ↔
      ∃ value before after, t = before ++ after ∧ Ran d before (.ok value) ∧ Ran (k value) after (.ok b) := by
  constructor
  · intro h
    induction d generalizing t with
    | done value => exact ⟨value, [], t, rfl, .done value, h⟩
    | failed reason => cases h
    | ask q next ih =>
      cases h with
      | ask h =>
        obtain ⟨value, before, after, rfl, hd, hk⟩ := ih _ h
        exact ⟨value, _ :: before, after, rfl, .ask hd, hk⟩
  · rintro ⟨value, before, after, rfl, hd, hk⟩
    exact hd.bind hk

theorem Asks.bind_left {d : Dialogue Q A ε α} {k : α → Dialogue Q A ε β} {t : List (Exchange A)} {q : Q}
    (h : Asks d t q) : Asks (d >>= k) t q := by
  induction h with
  | now => exact .now
  | later h ih => exact .later ih

theorem Asks.bind_right {d : Dialogue Q A ε α} {k : α → Dialogue Q A ε β}
    {before after : List (Exchange A)} {value : α} {q : Q} (hd : Ran d before (.ok value))
    (hk : Asks (k value) after q) : Asks (d >>= k) (before ++ after) q := by
  generalize hvalue : Except.ok value = r at hd
  induction hd with
  | done v =>
    cases hvalue
    exact hk
  | failed reason => cases hvalue
  | ask h ih => exact .later (ih hvalue)

/-- A sequence asks what its first part asks, and, once that has returned, what the rest asks. -/
theorem asks_bind {d : Dialogue Q A ε α} {k : α → Dialogue Q A ε β} {t : List (Exchange A)} {q : Q} :
    Asks (d >>= k) t q ↔ Asks d t q ∨
      ∃ value before after, t = before ++ after ∧ Ran d before (.ok value) ∧ Asks (k value) after q := by
  constructor
  · intro h
    induction d generalizing t with
    | done value => exact .inr ⟨value, [], t, rfl, .done value, h⟩
    | failed reason => cases h
    | ask q' next ih =>
      cases h with
      | now => exact .inl .now
      | later h =>
        rcases ih _ h with hd | ⟨value, before, after, rfl, hd, hk⟩
        · exact .inl (.later hd)
        · exact .inr ⟨value, _ :: before, after, rfl, .ask hd, hk⟩
  · rintro (h | ⟨value, before, after, rfl, hd, hk⟩)
    · exact h.bind_left
    · exact .bind_right hd hk

@[simp] theorem ran_pure {value b : α} {t : List (Exchange A)} :
    Ran (pure value : Dialogue Q A ε α) t (.ok b) ↔ t = [] ∧ b = value := by
  constructor
  · intro h
    cases h
    exact ⟨rfl, rfl⟩
  · rintro ⟨rfl, rfl⟩
    exact .done _

@[simp] theorem not_asks_pure {value : α} {t : List (Exchange A)} {q : Q} :
    ¬ Asks (pure value : Dialogue Q A ε α) t q := by
  intro h
  cases h

@[simp] theorem ran_question {q : Q} {t : List (Exchange A)} {a : A q} :
    Ran (question q : Dialogue Q A ε (A q)) t (.ok a) ↔ t = [⟨q, a⟩] := by
  constructor
  · intro h
    cases h with
    | ask h =>
      cases h
      rfl
  · rintro rfl
    exact .ask (.done a)

@[simp] theorem asks_question {q q' : Q} {t : List (Exchange A)} :
    Asks (question q : Dialogue Q A ε (A q)) t q' ↔ t = [] ∧ q' = q := by
  constructor
  · intro h
    cases h with
    | now => exact ⟨rfl, rfl⟩
    | later h => cases h
  · rintro ⟨rfl, rfl⟩
    exact .now

@[simp] theorem ran_check {x : Except ε α} {t : List (Exchange A)} {b : α} :
    Ran (check x : Dialogue Q A ε α) t (.ok b) ↔ t = [] ∧ x = .ok b := by
  constructor
  · intro h
    cases x with
    | ok value =>
      cases h
      exact ⟨rfl, rfl⟩
    | error reason => cases h
  · rintro ⟨rfl, rfl⟩
    exact .done b

@[simp] theorem not_asks_check {x : Except ε α} {t : List (Exchange A)} {q : Q} :
    ¬ Asks (check x : Dialogue Q A ε α) t q := by
  cases x <;> (intro h; cases h)

theorem ran_attempt {d : Dialogue Q A ε α} {t : List (Exchange A)} {r : Except ε α} :
    Ran d.attempt t (.ok r) ↔ Ran d t r := by
  constructor
  · intro h
    induction d generalizing t with
    | done value =>
      cases h
      exact .done value
    | failed reason =>
      cases h
      exact .failed reason
    | ask q next ih =>
      cases h with
      | ask h => exact .ask (ih _ h)
  · intro h
    induction h with
    | done value => exact .done _
    | failed reason => exact .done _
    | ask h ih => exact .ask ih

theorem asks_attempt {d : Dialogue Q A ε α} {t : List (Exchange A)} {q : Q} :
    Asks d.attempt t q ↔ Asks d t q := by
  constructor
  · intro h
    induction d generalizing t with
    | done value => cases h
    | failed reason => cases h
    | ask q' next ih =>
      cases h with
      | now => exact .now
      | later h => exact .later (ih _ h)
  · intro h
    induction h with
    | now => exact .now
    | later h ih => exact .later ih

/-! ## What a program never asks -/

/-- Every question of the program satisfies `P`. -/
def Only (P : Q → Prop) (d : Dialogue Q A ε α) : Prop := ∀ t q, Asks d t q → P q

section
variable {P : Q → Prop}

theorem only_pure (value : α) : Only P (pure value : Dialogue Q A ε α) := fun _ _ h => absurd h not_asks_pure

theorem only_check (x : Except ε α) : Only P (check x : Dialogue Q A ε α) :=
  fun _ _ h => absurd h not_asks_check

theorem only_question {q : Q} (h : P q) : Only P (question q : Dialogue Q A ε (A q)) := by
  intro t q' hasks
  obtain ⟨-, rfl⟩ := asks_question.mp hasks
  exact h

theorem only_bind {d : Dialogue Q A ε α} {k : α → Dialogue Q A ε β} (hd : Only P d)
    (hk : ∀ value, Only P (k value)) : Only P (d >>= k) := by
  intro t q h
  rcases asks_bind.mp h with h | ⟨value, _, _, -, -, h⟩
  · exact hd _ _ h
  · exact hk value _ _ h

theorem only_attempt {d : Dialogue Q A ε α} (h : Only P d) : Only P d.attempt :=
  fun t q hasks => h t q (asks_attempt.mp hasks)

/-- The history of a program holds its own questions only. -/
theorem Only.history {d : Dialogue Q A ε α} (h : Only P d) {t : List (Exchange A)} {r : Except ε α}
    (hran : Ran d t r) : ∀ e ∈ t, P e.1 := by
  induction hran with
  | done value => exact fun e he => absurd he List.not_mem_nil
  | failed reason => exact fun e he => absurd he List.not_mem_nil
  | ask hran ih =>
    intro e he
    rcases List.mem_cons.mp he with rfl | he
    · exact h _ _ .now
    · exact ih (fun t q hasks => h _ _ (.later hasks)) e he

theorem Only.before {d : Dialogue Q A ε α} (h : Only P d) {t : List (Exchange A)} {q : Q}
    (hasks : Asks d t q) : ∀ e ∈ t, P e.1 := by
  induction hasks with
  | now => exact fun e he => absurd he List.not_mem_nil
  | later hasks ih =>
    intro e he
    rcases List.mem_cons.mp he with rfl | he
    · exact h _ _ .now
    · exact ih (fun t q hasks => h _ _ (.later hasks)) e he

end

/-! ## Questions that are answered suitably -/

/-- Under some answers the program returns the value. -/
def Returns (d : Dialogue Q A ε α) (value : α) : Prop := ∃ t, Ran d t (.ok value)

/-- Under some answers the program comes to the question. -/
def Reaches (d : Dialogue Q A ε α) (q : Q) : Prop := ∃ t, Asks d t q

theorem Returns.bind {d : Dialogue Q A ε α} {k : α → Dialogue Q A ε β} {a : α} {b : β}
    (hd : Returns d a) (hk : Returns (k a) b) : Returns (d >>= k) b := by
  obtain ⟨before, hd⟩ := hd
  obtain ⟨after, hk⟩ := hk
  exact ⟨_, hd.bind hk⟩

theorem Returns.reaches {d : Dialogue Q A ε α} {k : α → Dialogue Q A ε β} {a : α} {q : Q}
    (hd : Returns d a) (hk : Reaches (k a) q) : Reaches (d >>= k) q := by
  obtain ⟨before, hd⟩ := hd
  obtain ⟨after, hk⟩ := hk
  exact ⟨_, .bind_right hd hk⟩

theorem returns_pure (value : α) : Returns (pure value : Dialogue Q A ε α) value :=
  ⟨[], ran_pure.mpr ⟨rfl, rfl⟩⟩

theorem returns_question (q : Q) (a : A q) : Returns (question q : Dialogue Q A ε (A q)) a :=
  ⟨_, ran_question.mpr rfl⟩

theorem returns_check {x : Except ε α} {value : α} (h : x = .ok value) :
    Returns (check x : Dialogue Q A ε α) value := ⟨[], ran_check.mpr ⟨rfl, h⟩⟩

/-- The run under answers that are known beforehand. -/
def run (answer : (q : Q) → A q) : Dialogue Q A ε α → List (Exchange A) × Except ε α
  | .done value => ([], .ok value)
  | .failed reason => ([], .error reason)
  | .ask q next =>
    let later := (next (answer q)).run answer
    (⟨q, answer q⟩ :: later.1, later.2)

theorem ran_run (answer : (q : Q) → A q) (d : Dialogue Q A ε α) :
    Ran d (d.run answer).1 (d.run answer).2 := by
  induction d with
  | done value => exact .done value
  | failed reason => exact .failed reason
  | ask q next ih => exact .ask (ih _)

theorem returns_run {answer : (q : Q) → A q} {d : Dialogue Q A ε α} {value : α}
    (h : (d.run answer).2 = .ok value) : Returns d value := by
  have ran := ran_run answer d
  rw [h] at ran
  exact ⟨_, ran⟩

end Dialogue

end KonnectFapi.Lib

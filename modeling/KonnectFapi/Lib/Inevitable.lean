import Mathlib.Data.List.Basic

/-!
# Inevitability

A state inevitably reaches a goal when every way of moving on from it does: the
goal holds, or there is a move and every move leads to such a state. This is
liveness without a fairness assumption, so it is proved with a measure that
every move lowers.
-/

namespace KonnectFapi.Lib

variable {σ : Type*} (moves : σ → σ → Prop) (goal : σ → Prop)

/-- On every maximal sequence of moves from the state, the goal is reached. -/
inductive Inevitable : σ → Prop
  | reached {s : σ} (h : goal s) : Inevitable s
  | pending {s : σ} (progress : ∃ t, moves s t) (later : ∀ t, moves s t → Inevitable t) :
      Inevitable s

variable {moves goal}

/-- An invariant under which a move is always possible before the goal, and under
which every such move lowers the measure, makes the goal inevitable. -/
theorem Inevitable.of_measure {P : σ → Prop} (measure : σ → Nat)
    (progress : ∀ s, P s → ¬ goal s → ∃ t, moves s t)
    (lowers : ∀ s t, P s → ¬ goal s → moves s t → P t ∧ measure t < measure s)
    {s : σ} (h : P s) : Inevitable moves goal s := by
  induction hn : measure s using Nat.strongRecOn generalizing s with
  | ind n ih =>
    by_cases done : goal s
    · exact .reached done
    · apply Inevitable.pending (progress s h done)
      intro t move
      obtain ⟨kept, lower⟩ := lowers s t h done move
      exact ih (measure t) (hn ▸ lower) kept rfl

/-- From where every sequence of moves stays away from the goal, it is not
inevitable: a maximal one never reaches it. -/
theorem Inevitable.not_of_invariant {P : σ → Prop} (away : ∀ s, P s → ¬ goal s)
    (kept : ∀ s t, P s → moves s t → P t) {s : σ} (h : P s) : ¬ Inevitable moves goal s := by
  intro inevitable
  induction inevitable with
  | reached done => exact away _ h done
  | pending progress _ ih =>
    obtain ⟨t, move⟩ := progress
    exact ih t move (kept _ t h move)

end KonnectFapi.Lib

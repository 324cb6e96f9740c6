import Mathlib.Data.List.Basic

/-!
# What has held since an event

The past operator over a finite trace: some event, described together with what came
before it, has happened, and nothing since has cancelled it.
-/

namespace KonnectFapi.Lib

variable {ε : Type*}

def Since (start : List ε → ε → Prop) (stop : ε → Prop) (past : List ε) : Prop :=
  ∃ before e after, past = before ++ e :: after ∧ start before e ∧ ∀ x ∈ after, ¬ stop x

variable {start start' : List ε → ε → Prop} {stop stop' : ε → Prop} {past more : List ε}

namespace Since

theorem now {e : ε} (h : start past e) : Since start stop (past ++ [e]) :=
  ⟨past, e, [], rfl, h, fun _ hx => absurd hx List.not_mem_nil⟩

/-- What does not cancel it lets it stand. -/
theorem append (h : Since start stop past) (quiet : ∀ x ∈ more, ¬ stop x) :
    Since start stop (past ++ more) := by
  obtain ⟨before, e, after, rfl, hstart, hafter⟩ := h
  refine ⟨before, e, after ++ more, ?_, hstart, List.forall_mem_append.mpr ⟨hafter, quiet⟩⟩
  rw [List.append_assoc, List.cons_append]

theorem mono (h : Since start stop past) (starts : ∀ before e, start before e → start' before e)
    (stops : ∀ x, stop' x → stop x) : Since start' stop' past := by
  obtain ⟨before, e, after, rfl, hstart, hafter⟩ := h
  exact ⟨before, e, after, rfl, starts before e hstart, fun x hx hstop => hafter x hx (stops x hstop)⟩

/-- An event of the trace, without its past. -/
theorem exists_mem {p : ε → Prop} (h : Since (fun _ e => p e) stop past) : ∃ e ∈ past, p e := by
  obtain ⟨before, e, after, rfl, hp, -⟩ := h
  exact ⟨e, List.mem_append_right _ List.mem_cons_self, hp⟩

/-- It began in the second part, or in the first and the second did not cancel it. -/
theorem append_iff {p : ε → Prop} :
    Since (fun _ e => p e) stop (past ++ more) ↔
      Since (fun _ e => p e) stop more ∨ (Since (fun _ e => p e) stop past ∧ ∀ x ∈ more, ¬ stop x) := by
  constructor
  · intro h
    obtain ⟨before, e, after, heq, hp, hafter⟩ := h
    rcases List.append_eq_append_iff.mp heq with ⟨front, -, hmore⟩ | ⟨back, hpast, hrest⟩
    · exact Or.inl ⟨front, e, after, hmore, hp, hafter⟩
    · cases back with
      | nil => exact Or.inl ⟨[], e, after, hrest.symm, hp, hafter⟩
      | cons x back =>
        obtain ⟨rfl, rfl⟩ := List.cons.inj hrest
        obtain ⟨hback, hmore⟩ := List.forall_mem_append.mp hafter
        exact Or.inr ⟨⟨before, e, back, hpast, hp, hback⟩, hmore⟩
  · intro h
    rcases h with h | ⟨h, quiet⟩
    · obtain ⟨before, e, after, rfl, hp, hafter⟩ := h
      exact ⟨past ++ before, e, after, (List.append_assoc ..).symm, hp, hafter⟩
    · exact h.append quiet

/-- A trace seen through a partial map that keeps the event and what cancels. -/
theorem filterMap {δ : Type*} {f : ε → Option δ} {p : ε → Prop} {q : δ → Prop} {stops : δ → Prop}
    (h : Since (fun _ e => p e) stop past) (event : ∀ e, p e → ∃ d, f e = some d ∧ q d)
    (cancels : ∀ x ∈ past, ∀ d, f x = some d → stops d → stop x) :
    Since (fun _ d => q d) stops (past.filterMap f) := by
  obtain ⟨before, e, after, rfl, hp, hafter⟩ := h
  obtain ⟨d, hd, hq⟩ := event e hp
  refine ⟨before.filterMap f, d, after.filterMap f, ?_, hq, ?_⟩
  · rw [List.filterMap_append, List.filterMap_cons_some hd]
  · intro x hx hstops
    obtain ⟨y, hy, hfy⟩ := List.mem_filterMap.mp hx
    have hmem : y ∈ before ++ e :: after := List.mem_append_right _ (List.mem_cons_of_mem _ hy)
    exact hafter y hy (cancels y hmem x hfy hstops)

/-- Two last events of one kind are the same. -/
theorem unique {p q : ε → Prop} (hp : Since (fun _ e => p e) stop past)
    (hq : Since (fun _ e => q e) stop past) (stopsP : ∀ e, p e → stop e) (stopsQ : ∀ e, q e → stop e) :
    ∃ e, p e ∧ q e := by
  obtain ⟨before, e, after, rfl, hpe, hafter⟩ := hp
  obtain ⟨before', e', after', heq, hqe, hafter'⟩ := hq
  rcases List.append_eq_append_iff.mp heq with ⟨front, -, hmore⟩ | ⟨back, -, hrest⟩
  · cases front with
    | nil =>
      obtain ⟨rfl, -⟩ := List.cons.inj hmore
      exact ⟨e, hpe, hqe⟩
    | cons x front =>
      obtain ⟨-, rfl⟩ := List.cons.inj hmore
      exact absurd (stopsQ e' hqe) (hafter e' (List.mem_append_right _ List.mem_cons_self))
  · cases back with
    | nil =>
      obtain ⟨rfl, -⟩ := List.cons.inj hrest
      exact ⟨e', hpe, hqe⟩
    | cons x back =>
      obtain ⟨-, rfl⟩ := List.cons.inj hrest
      exact absurd (stopsP e hpe) (hafter' e (List.mem_append_right _ List.mem_cons_self))

end Since

end KonnectFapi.Lib

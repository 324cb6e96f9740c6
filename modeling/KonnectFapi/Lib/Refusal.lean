import KonnectFapi.Lib.Text
import Mathlib.Data.List.Forall2

/-!
# Checks that refuse

A check of a script raises a message; a run of checks goes on while they hold.
-/

namespace KonnectFapi.Lib

/-- Why nothing is returned: a raised message, or an exception the code does not raise itself. -/
inductive Refused where
  | valueError (message : Text)
  | raised
  deriving DecidableEq

def fail {α : Type} (message : String) : Except Refused α := .error (.valueError (text message))

/-- `if not holds: raise ValueError(message)`. -/
def require (holds : Bool) (message : String) : Except Refused Unit :=
  if holds then .ok () else fail message

theorem bind_eq_ok {ε α β : Type} {x : Except ε α} {f : α → Except ε β} {b : β} :
    (x >>= f) = .ok b ↔ ∃ a, x = .ok a ∧ f a = .ok b := by
  cases x <;> simp [bind, Except.bind]

theorem require_eq_ok {holds : Bool} {message : String} {u : Unit} :
    require holds message = .ok u ↔ holds = true := by
  cases holds <;> simp [require, fail]

theorem require_bind {α : Type} {holds : Bool} {message : String}
    {next : Unit → Except Refused α} {a : α} :
    (require holds message >>= next) = .ok a ↔ holds = true ∧ next () = .ok a := by
  cases holds <;> simp [require, fail, bind, Except.bind]

def accepts : Except Refused Unit → Bool
  | .ok _ => true
  | .error _ => false

theorem accepts_iff {x : Except Refused Unit} : accepts x = true ↔ x = .ok () := by
  cases x with
  | error e => simp [accepts]
  | ok u => simp [accepts]

theorem forM_eq_ok {α : Type} {f : α → Except Refused Unit} {items : List α} :
    items.forM f = .ok () ↔ ∀ v ∈ items, f v = .ok () := by
  induction items with
  | nil => exact ⟨fun _ v hv => (List.not_mem_nil hv).elim, fun _ => rfl⟩
  | cons v rest ih =>
    constructor
    · intro h
      obtain ⟨_, hhead, htail⟩ := bind_eq_ok.mp h
      exact List.forall_mem_cons.mpr ⟨hhead, ih.mp htail⟩
    · intro h
      obtain ⟨hhead, htail⟩ := List.forall_mem_cons.mp h
      exact bind_eq_ok.mpr ⟨(), hhead, ih.mpr htail⟩

/-- What a run over a list returned, item by item. -/
theorem mapM_eq_ok {ε α β : Type} {f : α → Except ε β} {items : List α} {results : List β} :
    items.mapM f = .ok results ↔ List.Forall₂ (fun v r => f v = .ok r) items results := by
  induction items generalizing results with
  | nil =>
    simp only [List.mapM_nil, List.forall₂_nil_left_iff]
    exact ⟨fun h => (Except.ok.inj h).symm, fun h => h ▸ rfl⟩
  | cons v rest ih =>
    rw [List.mapM_cons, bind_eq_ok]
    constructor
    · rintro ⟨r, hhead, h⟩
      obtain ⟨more, htail, h⟩ := bind_eq_ok.mp h
      cases h
      exact .cons hhead (ih.mp htail)
    · intro h
      cases h with
      | cons hhead htail => exact ⟨_, hhead, bind_eq_ok.mpr ⟨_, ih.mpr htail, rfl⟩⟩

theorem mapM_eq_some {α β : Type} {f : α → Option β} {items : List α} {results : List β}
    (h : List.Forall₂ (fun v r => f v = some r) items results) : items.mapM f = some results := by
  induction h with
  | nil => rfl
  | cons hhead _ ih => simp [List.mapM_cons, hhead, ih]

theorem exists_of_mem_right {α β : Type} {R : α → β → Prop} {xs : List α} {ys : List β}
    (h : List.Forall₂ R xs ys) {y : β} (hy : y ∈ ys) : ∃ x ∈ xs, R x y := by
  induction h with
  | nil => cases hy
  | cons hhead _ ih =>
    rcases List.mem_cons.mp hy with rfl | hy
    · exact ⟨_, List.mem_cons_self, hhead⟩
    · obtain ⟨x, hx, hxy⟩ := ih hy
      exact ⟨x, List.mem_cons_of_mem _ hx, hxy⟩

theorem exists_of_mem_left {α β : Type} {R : α → β → Prop} {xs : List α} {ys : List β}
    (h : List.Forall₂ R xs ys) {x : α} (hx : x ∈ xs) : ∃ y ∈ ys, R x y :=
  exists_of_mem_right (R := flip R) h.flip hx

theorem map_eq_of_forall₂ {α β γ : Type} {f : α → γ} {g : β → γ} {xs : List α} {ys : List β}
    (h : List.Forall₂ (fun x y => f x = g y) xs ys) : xs.map f = ys.map g := by
  rw [← List.forall₂_eq_eq_eq]
  simpa using h

/-- A run whose items each have one result when they have any. -/
theorem mapM_eq_ok_map {ε α β : Type} {f : α → Except ε β} {good : α → Prop} {g : α → β}
    (each : ∀ a r, f a = .ok r ↔ good a ∧ r = g a) {items : List α} {results : List β} :
    items.mapM f = .ok results ↔ (∀ a ∈ items, good a) ∧ results = items.map g := by
  rw [mapM_eq_ok]
  simp only [each]
  constructor
  · intro h
    refine ⟨fun a ha => ?_, ?_⟩
    · obtain ⟨r, -, hgood, -⟩ := exists_of_mem_left h ha
      exact hgood
    · have same : items.map g = results.map id :=
        map_eq_of_forall₂ (h.imp fun a r hr => hr.2.symm)
      rw [same, List.map_id]
  · rintro ⟨hgood, rfl⟩
    rw [List.forall₂_map_right_iff, List.forall₂_same]
    exact fun a ha => ⟨hgood a ha, rfl⟩

end KonnectFapi.Lib

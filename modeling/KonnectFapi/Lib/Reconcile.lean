import KonnectFapi.Lib.Store

/-!
# Reconciling a collection with the records wanted of it

Wanted records are matched with the stored ones by a key that both have. A plan is made
from one reading of the collection and then carried out: a record is created, amended or
left as it is. Where the reading was unambiguous, the collection then has every wanted
record, planning again asks for nothing, and a record under another key is as it was.
-/

namespace KonnectFapi.Lib

/-- How a wanted record `δ` and a stored record `α` relate. -/
structure Reconciler (κ δ α : Type) where
  key : δ → κ
  keyOf : α → κ
  settled : δ → α → Bool
  create : δ → α
  amend : δ → α → α

inductive Step (ι δ : Type) where
  | create (d : δ)
  | keep (id : ι) (d : δ)
  | update (id : ι) (d : δ)

namespace Reconciler

variable {ι κ δ α : Type} [DecidableEq κ]

/-- What carrying out a wanted record achieves. -/
structure Sound (r : Reconciler κ δ α) (d : δ) : Prop where
  keyOf_create : r.keyOf (r.create d) = r.key d
  keyOf_amend : ∀ a, r.keyOf a = r.key d → r.keyOf (r.amend d a) = r.key d
  settled_create : r.settled d (r.create d) = true
  settled_amend : ∀ a, r.keyOf a = r.key d → r.settled d (r.amend d a) = true

variable (r : Reconciler κ δ α)

/-- The stored records under a key. -/
def found (s : Store ι α) (k : κ) : List (ι × α) :=
  s.entries.filter fun e => r.keyOf e.2 == k

def planOne (s : Store ι α) (d : δ) : Step ι δ :=
  match r.found s (r.key d) with
  | [] => .create d
  | (id, a) :: _ => if r.settled d a then .keep id d else .update id d

def plan (s : Store ι α) (wanted : List δ) : List (Step ι δ) := wanted.map (r.planOne s)

variable {r}

theorem mem_found {s : Store ι α} {k : κ} {id : ι} {a : α} :
    (id, a) ∈ r.found s k ↔ (id, a) ∈ s.entries ∧ r.keyOf a = k := by
  simp [found, List.mem_filter]

theorem found_add (supply : IdSupply ι) (s : Store ι α) (a : α) (k : κ) :
    r.found (s.add supply a) k =
      r.found s k ++ if r.keyOf a = k then [(supply.next s.ids, a)] else [] := by
  simp only [found, Store.add, List.filter_append]
  by_cases h : r.keyOf a = k <;> simp [h]

/-- Where the wanted record is there and settled, planning asks for nothing. -/
theorem planOne_keep {s : Store ι α} {d : δ} {id : ι} {a : α}
    (hfound : r.found s (r.key d) = [(id, a)]) (hsettled : r.settled d a = true) :
    r.planOne s d = .keep id d := by
  rw [planOne, hfound]
  exact if_pos hsettled

/-- Every key stands once. -/
def Keyed (r : Reconciler κ δ α) (s : Store ι α) : Prop := (s.entries.map fun e => r.keyOf e.2).Nodup

theorem keyed_iff {s : Store ι α} : Keyed r s ↔ ∀ k, (r.found s k).length ≤ 1 := by
  have count : ∀ k, (s.entries.map fun e => r.keyOf e.2).count k = (r.found s k).length := by
    intro k
    rw [List.count_eq_countP, List.countP_map, List.countP_eq_length_filter]
    rfl
  rw [Keyed, List.nodup_iff_count_le_one]
  exact forall_congr' fun k => by rw [count]

variable [DecidableEq ι]

/-- Amending a record under its key leaves the records under other keys as they are. -/
theorem found_modify_of_ne {s : Store ι α} {id : ι} {a : α} {f : α → α} {k k' : κ}
    (hmem : (id, a) ∈ s.entries) (hkey : r.keyOf a = k) (hkeep : r.keyOf (f a) = k)
    (hne : k' ≠ k) : r.found (s.modify id f) k' = r.found s k' := by
  simp only [found, Store.modify, List.filter_map]
  have same : ∀ e ∈ s.entries,
      ((fun e => r.keyOf e.2 == k') ∘ fun e : ι × α => (e.1, if e.1 = id then f e.2 else e.2)) e =
        (r.keyOf e.2 == k') := by
    intro e he
    by_cases hid : e.1 = id
    · have heq : e.2 = a := Store.eq_of_mem (hid ▸ he : (id, e.2) ∈ s.entries) hmem
      simp [hid, heq, hkey, hkeep]
    · simp [hid]
  rw [List.filter_congr same]
  refine (List.map_congr_left fun e he => ?_).trans (List.map_id _)
  obtain ⟨hentry, hk⟩ := List.mem_filter.mp he
  have hid : e.1 ≠ id := by
    intro hid
    have heq : e.2 = a := Store.eq_of_mem (hid ▸ hentry : (id, e.2) ∈ s.entries) hmem
    rw [heq, hkey, beq_iff_eq] at hk
    exact hne hk.symm
  simp [hid]

/-- The only record under a key, amended, is the only record under it. -/
theorem found_modify_self {s : Store ι α} {id : ι} {a : α} {f : α → α} {k : κ}
    (h : r.found s k = [(id, a)]) (hkeep : r.keyOf (f a) = k) :
    r.found (s.modify id f) k = [(id, f a)] := by
  have hmem : (id, a) ∈ s.entries := (mem_found.mp (h ▸ List.mem_singleton_self _)).1
  have hkey : r.keyOf a = k := (mem_found.mp (h ▸ List.mem_singleton_self _)).2
  simp only [found, Store.modify, List.filter_map]
  have same : ∀ e ∈ s.entries,
      ((fun e => r.keyOf e.2 == k) ∘ fun e : ι × α => (e.1, if e.1 = id then f e.2 else e.2)) e =
        (r.keyOf e.2 == k) := by
    intro e he
    by_cases hid : e.1 = id
    · have heq : e.2 = a := Store.eq_of_mem (hid ▸ he : (id, e.2) ∈ s.entries) hmem
      simp [hid, heq, hkey, hkeep]
    · simp [hid]
  rw [List.filter_congr same]
  have hfound : s.entries.filter (fun e => r.keyOf e.2 == k) = [(id, a)] := h
  rw [hfound]
  simp

/-! ## Carrying a plan out -/

def applyOne (r : Reconciler κ δ α) (supply : IdSupply ι) (s : Store ι α) : Step ι δ → Store ι α
  | .create d => s.add supply (r.create d)
  | .keep _ _ => s
  | .update id d => s.modify id (r.amend d)

def apply (r : Reconciler κ δ α) (supply : IdSupply ι) (s : Store ι α) (steps : List (Step ι δ)) :
    Store ι α := steps.foldl (r.applyOne supply) s

/-- Where the one record under the key of a wanted record comes from. -/
def ComesFrom (r : Reconciler κ δ α) (supply : IdSupply ι) (s : Store ι α) (d : δ) (id : ι)
    (a : α) : Prop :=
  (r.found s (r.key d) = [] ∧ a = r.create d ∧ ∃ taken, id = supply.next taken) ∨
    ∃ a₀, r.found s (r.key d) = [(id, a₀)] ∧ (a = a₀ ∨ a = r.amend d a₀)

/-- The collection has one record for a wanted one, and it is settled. -/
def Fulfilled (r : Reconciler κ δ α) (supply : IdSupply ι) (s s' : Store ι α) (d : δ) : Prop :=
  ∃ id a, r.found s' (r.key d) = [(id, a)] ∧ r.settled d a = true ∧ ComesFrom r supply s d id a

/-- What is done to a collection for some keys: the records under other keys are as they were. -/
structure Apart (r : Reconciler κ δ α) (s s' : Store ι α) (keys : List κ) : Prop where
  found : ∀ k, k ∉ keys → r.found s' k = r.found s k
  kept : ∀ id a, s.find? id = some a → (∀ k ∈ keys, r.keyOf a ≠ k) → s'.find? id = some a

theorem Apart.refl (s : Store ι α) (keys : List κ) : Apart r s s keys :=
  ⟨fun _ _ => rfl, fun _ _ ha _ => ha⟩

theorem Apart.trans {s t u : Store ι α} {k : κ} {keys : List κ} (head : Apart r s t [k])
    (tail : Apart r t u keys) : Apart r s u (k :: keys) where
  found k' hk := by
    obtain ⟨hhead, htail⟩ := not_or.mp (List.mem_cons.not.mp hk)
    exact (tail.found k' htail).trans (head.found k' (by simpa using hhead))
  kept id a ha hkeys := by
    obtain ⟨hhead, htail⟩ := List.forall_mem_cons.mp hkeys
    exact tail.kept id a (head.kept id a ha (by simpa using hhead)) htail

theorem apart_add {supply : IdSupply ι} {s : Store ι α} {a : α} {k : κ}
    (hkey : r.keyOf a = k) : Apart r s (s.add supply a) [k] where
  found k' hk := by
    rw [found_add, hkey, if_neg, List.append_nil]
    exact fun h => hk (List.mem_singleton.mpr h.symm)
  kept _ _ ha _ := Store.find?_add ha

theorem apart_modify {s : Store ι α} {id : ι} {a : α} {f : α → α} {k : κ}
    (hmem : (id, a) ∈ s.entries) (hkey : r.keyOf a = k) (hkeep : r.keyOf (f a) = k) :
    Apart r s (s.modify id f) [k] where
  found k' hk := found_modify_of_ne hmem hkey hkeep (by simpa using hk)
  kept id' b hb hkeys := by
    refine (Store.find?_modify_of_ne _ ?_).trans hb
    rintro rfl
    have heq := Store.eq_of_mem (Store.find?_eq_some.mp hb) hmem
    exact hkeys k (List.mem_singleton_self k) (heq ▸ hkey)

/-- One step, planned from a reading that still holds for its key. -/
theorem applyOne_fulfils (supply : IdSupply ι) {live s : Store ι α} {d : δ} (sound : r.Sound d)
    (reading : r.found s (r.key d) = r.found live (r.key d))
    (single : (r.found live (r.key d)).length ≤ 1) :
    Fulfilled r supply live (r.applyOne supply s (r.planOne live d)) d ∧
      Apart r s (r.applyOne supply s (r.planOne live d)) [r.key d] := by
  rcases hfound : r.found live (r.key d) with _ | ⟨⟨id, a⟩, rest⟩
  · rw [planOne, hfound]
    refine ⟨⟨supply.next s.ids, r.create d, ?_, sound.settled_create, Or.inl ⟨hfound, rfl, s.ids, rfl⟩⟩,
      apart_add sound.keyOf_create⟩
    rw [applyOne, found_add, reading, hfound, if_pos sound.keyOf_create, List.nil_append]
  · have hrest : rest = [] := by
      rw [hfound, List.length_cons] at single
      exact List.eq_nil_of_length_eq_zero (by omega)
    subst hrest
    rw [hfound] at reading
    obtain ⟨hmem, hkey⟩ := mem_found.mp (reading ▸ List.mem_singleton_self (id, a))
    rw [planOne, hfound]
    dsimp only
    split
    · rename_i hsettled
      exact ⟨⟨id, a, reading, hsettled, Or.inr ⟨a, hfound, Or.inl rfl⟩⟩, Apart.refl s _⟩
    · have hkeep := sound.keyOf_amend a hkey
      exact ⟨⟨id, r.amend d a, found_modify_self reading hkeep, sound.settled_amend a hkey,
        Or.inr ⟨a, hfound, Or.inr rfl⟩⟩, apart_modify hmem hkey hkeep⟩

/-- The induction is on the plan; what was read under the keys still to come holds on. -/
theorem apply_fulfils_from (supply : IdSupply ι) {live : Store ι α} :
    ∀ {wanted : List δ} {s : Store ι α}, (∀ d ∈ wanted, r.Sound d) → (wanted.map r.key).Nodup →
      (∀ d ∈ wanted, r.found s (r.key d) = r.found live (r.key d)) →
      (∀ d ∈ wanted, (r.found live (r.key d)).length ≤ 1) →
      (∀ d ∈ wanted, Fulfilled r supply live (r.apply supply s (r.plan live wanted)) d) ∧
        Apart r s (r.apply supply s (r.plan live wanted)) (wanted.map r.key)
  | [], s, _, _, _, _ => ⟨fun d hd => (List.not_mem_nil hd).elim, Apart.refl s _⟩
  | d :: rest, s, sound, nodup, reading, single => by
    obtain ⟨soundHead, soundRest⟩ := List.forall_mem_cons.mp sound
    obtain ⟨readingHead, readingRest⟩ := List.forall_mem_cons.mp reading
    obtain ⟨singleHead, singleRest⟩ := List.forall_mem_cons.mp single
    obtain ⟨fresh, nodupRest⟩ := List.nodup_cons.mp nodup
    have head := applyOne_fulfils supply soundHead readingHead singleHead
    have apart : ∀ e ∈ rest, r.key e ∉ [r.key d] := fun e he hmem =>
      fresh (List.mem_singleton.mp hmem ▸ List.mem_map_of_mem he)
    have tail := apply_fulfils_from supply soundRest nodupRest
      (fun e he => (head.2.found _ (apart e he)).trans (readingRest e he)) singleRest
    refine ⟨List.forall_mem_cons.mpr ⟨?_, tail.1⟩, head.2.trans tail.2⟩
    obtain ⟨id, a, hfound, hrest⟩ := head.1
    exact ⟨id, a, (tail.2.found _ fresh).trans hfound, hrest⟩

/-- A plan carried out on the collection it was read from. -/
theorem apply_fulfils (supply : IdSupply ι) {s : Store ι α} {wanted : List δ}
    (sound : ∀ d ∈ wanted, r.Sound d) (nodup : (wanted.map r.key).Nodup)
    (single : ∀ d ∈ wanted, (r.found s (r.key d)).length ≤ 1) :
    (∀ d ∈ wanted, Fulfilled r supply s (r.apply supply s (r.plan s wanted)) d) ∧
      Apart r s (r.apply supply s (r.plan s wanted)) (wanted.map r.key) :=
  apply_fulfils_from supply sound nodup (fun _ _ => rfl) single

/-- A collection with one record a key has one a key afterwards. -/
theorem keyed_of_fulfilled {supply : IdSupply ι} {s s' : Store ι α} {wanted : List δ} (keyed : Keyed r s)
    (fulfilled : ∀ d ∈ wanted, Fulfilled r supply s s' d) (apart : Apart r s s' (wanted.map r.key)) :
    Keyed r s' := by
  refine keyed_iff.mpr fun k => ?_
  by_cases hk : k ∈ wanted.map r.key
  · obtain ⟨d, hd, rfl⟩ := List.mem_map.mp hk
    obtain ⟨id, a, hfound, -⟩ := fulfilled d hd
    exact Nat.le_of_eq (congrArg List.length hfound)
  · rw [apart.found k hk]
    exact keyed_iff.mp keyed k

/-! ## Working on the records that were found -/

/-- One change for each wanted record, under the identifiers given with them. -/
def modifyEach (g : δ → α → α) (s : Store ι α) (steps : List (ι × δ)) : Store ι α :=
  steps.foldl (fun s step => s.modify step.1 (g step.2)) s

theorem modifyEach_found {g : δ → α → α} (keeps : ∀ d a, r.keyOf (g d a) = r.keyOf a) :
    ∀ {steps : List (ι × δ)} {s : Store ι α}, (steps.map fun step => r.key step.2).Nodup →
      (∀ step ∈ steps, ∃ a, r.found s (r.key step.2) = [(step.1, a)]) →
      (∀ step ∈ steps, ∀ a, r.found s (r.key step.2) = [(step.1, a)] →
        r.found (modifyEach g s steps) (r.key step.2) = [(step.1, g step.2 a)]) ∧
      Apart r s (modifyEach g s steps) (steps.map fun step => r.key step.2)
  | [], s, _, _ => ⟨fun _ h => (List.not_mem_nil h).elim, Apart.refl s _⟩
  | (id, d) :: rest, s, nodup, there => by
    obtain ⟨⟨a, hfound⟩, thereRest⟩ := List.forall_mem_cons.mp there
    obtain ⟨fresh, nodupRest⟩ := List.nodup_cons.mp nodup
    obtain ⟨hmem, hkey⟩ := mem_found.mp (hfound ▸ List.mem_singleton_self (id, a))
    have head : Apart r s (s.modify id (g d)) [r.key d] :=
      apart_modify hmem hkey ((keeps d a).trans hkey)
    have others : ∀ step ∈ rest, r.found (s.modify id (g d)) (r.key step.2) =
        r.found s (r.key step.2) := by
      refine fun step hstep => head.found _ fun h => fresh ?_
      exact List.mem_map.mpr ⟨step, hstep, List.mem_singleton.mp h⟩
    have tail := modifyEach_found keeps nodupRest
      (fun step hstep => by rw [others step hstep]; exact thereRest step hstep)
    refine ⟨List.forall_mem_cons.mpr ⟨fun b hb => ?_, fun step hstep b hb => ?_⟩,
      head.trans tail.2⟩
    · refine (tail.2.found _ fresh).trans ?_
      exact found_modify_self hb ((keeps d b).trans (mem_found.mp (hb ▸ List.mem_singleton_self _)).2)
    · exact tail.1 step hstep b ((others step hstep).trans hb)

end Reconciler

end KonnectFapi.Lib

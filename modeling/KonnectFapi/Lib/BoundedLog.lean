import Mathlib.Data.List.Forall2

/-!
# Logs of bounded length

A log takes entries until it is full and gives out the place each one got, so that
the entry can be rewritten later. It holds the first facts it was told, whatever
else it was told since.
-/

namespace KonnectFapi.Lib

variable {α β : Type*} {R : α → β → Prop} {cap : Nat} {entries : List α} {facts : List β}

/-- The place a log with `n` entries has left for the next one. -/
def freeSlot (cap n : Nat) : Option Nat := if n < cap then some n else none

/-- Enters at the end, unless the log is full. -/
def record (cap : Nat) (entries : List α) (entry : α) : List α :=
  if entries.length < cap then entries ++ [entry] else entries

/-- Rewrites the entry at a place that was given out. -/
def rewrite (entries : List α) (slot : Option Nat) (entry : α) : List α :=
  match slot with
  | some i => entries.set i entry
  | none => entries

/-- Each entry stands for one of the first `cap` facts, in order. -/
def Logged (R : α → β → Prop) (cap : Nat) (entries : List α) (facts : List β) : Prop :=
  List.Forall₂ R entries (facts.take cap)

theorem Logged.nil : Logged R cap [] [] := by
  rw [Logged, List.take_nil]
  exact .nil

theorem Logged.length_eq (h : Logged R cap entries facts) :
    entries.length = min cap facts.length := by
  rw [List.Forall₂.length_eq h, List.length_take]

theorem Logged.length_le (h : Logged R cap entries facts) : entries.length ≤ cap := by
  rw [h.length_eq]
  exact Nat.min_le_left ..

/-- The next place depends on the number of facts only. -/
theorem Logged.freeSlot (h : Logged R cap entries facts) :
    Lib.freeSlot cap entries.length = Lib.freeSlot cap facts.length := by
  unfold Lib.freeSlot
  rw [h.length_eq]
  split <;> split <;> first | rfl | omega | (congr 1; omega)

theorem Logged.record (h : Logged R cap entries facts) {entry : α} {fact : β}
    (tells : R entry fact) : Logged R cap (record cap entries entry) (facts ++ [fact]) := by
  have length := h.length_eq
  unfold Lib.record Logged at *
  split
  · rw [List.take_of_length_le (by omega)] at h
    rw [List.take_of_length_le (by simp; omega)]
    exact List.rel_append h (.cons tells .nil)
  · rwa [List.take_append_of_le_length (by omega)]

theorem forall₂_set {n : Nat} {entry : α} {fact : β} (h : List.Forall₂ R entries facts)
    (tells : R entry fact) : List.Forall₂ R (entries.set n entry) (facts.set n fact) := by
  induction h generalizing n with
  | nil => exact .nil
  | cons head _ ih =>
    cases n with
    | zero => exact .cons tells (by assumption)
    | succ n => exact .cons head ih

/-- A rewritten entry stands for the fact as it is now. -/
theorem Logged.rewrite (h : Logged R cap entries facts) {n : Nat} {entry : α} {fact : β}
    (tells : R entry fact) :
    Logged R cap (rewrite entries (Lib.freeSlot cap n) entry) (facts.set n fact) := by
  unfold Lib.freeSlot
  split
  · show List.Forall₂ R (entries.set n entry) ((facts.set n fact).take cap)
    rw [List.take_set]
    exact forall₂_set h tells
  · -- the fact came when the log was full
    show List.Forall₂ R entries ((facts.set n fact).take cap)
    rwa [List.take_set_of_le (by omega)]

theorem rewrite_record (entries : List α) (first later : α) :
    rewrite (record cap entries first) (freeSlot cap entries.length) later =
      record cap entries later := by
  unfold record freeSlot rewrite
  by_cases room : entries.length < cap <;> simp [room]

end KonnectFapi.Lib
